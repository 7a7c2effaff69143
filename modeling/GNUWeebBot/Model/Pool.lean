import GNUWeebBot.Lib.Buffer
import GNUWeebBot.Lib.Fifo
import GNUWeebBot.Model.Base
import GNUWeebBot.Model.Tstack

/-!
# The worker pool

The part of `core/server.c` that hands packets to the workers: `submit_event`,
`submit_to_thread`, `enqueue_to_sqe`, `dispatch_sqe`, `spawn_thread`, `handle_thread`
and `reset_thread`. The main thread and any number of workers interleave; one action is
one critical section under `ev_lock` or `thread_stk_lock`, or the unlocked `reset_thread`.

A call of `submit_event` is given a ticket, so that two packets with the same bytes
remain two packets. `ticket`, `nextTicket`, `payload`, `accepted`, `handled` and
`destroyed` only record what happened; no branch of the code reads them.
-/

namespace GNUWeebBot

/-- `struct que_node`, without the links. -/
structure QueNode where
  len : ℕ
  data : Buf
  ticket : ℕ

/-- The fields of `struct gwbot_thread` that the pool uses. -/
structure Thread where
  threadIdx : ℕ
  isOnline : Bool
  hasEvent : Bool
  evFromSqe : Bool
  pktLen : ℕ
  sqeNode : Option QueNode
  pkt : Buf
  ticket : ℕ

/-- Where a worker is in `handle_thread`. -/
inductive Phase
  | spawned -- before its first lock of `ev_lock`
  | again -- at the label `again`, before it takes `ev_lock` once more
  | waiting (counter : ℕ) -- in `gw_cond_timedwait_rel`, `ev_lock` released
  | running -- in `gwbot_event_handler`, `ev_lock` held
  | cleared -- `has_event` cleared, index not yet pushed, `ev_lock` held
  | pushed -- index pushed, `ev_lock` still held
  | leaving -- past the label `out`, `ev_lock` released, before `reset_thread`
deriving DecidableEq

def Phase.holdsEvLock : Phase → Bool
  | running | cleared | pushed => true
  | spawned | again | waiting _ | leaving => false

structure Worker where
  idx : ℕ
  phase : Phase
deriving DecidableEq

/-- Where the main thread is, as far as the pool is concerned. -/
inductive MainPc
  | idle
  | submit (idx cpyLen : ℕ) (chanPkt : Buf) (ticket : ℕ) -- index popped, slot not yet written
  | dispatch (idx : ℕ) -- the same in `dispatch_sqe`

structure Pool where
  threadC : ℕ
  stopEl : Bool
  threads : ℕ → Thread
  threadStk : Tstack
  sqes : Fifo QueNode
  main : MainPc
  workers : ℕ → Option Worker
  nextTid : ℕ
  aborted : Bool
  nextTicket : ℕ
  payload : ℕ → List UInt8
  accepted : List ℕ
  handled : List (ℕ × List UInt8)
  destroyed : List ℕ

/-- The index the main thread has popped and not yet used. -/
def MainPc.popped : MainPc → Option ℕ
  | idle => none
  | submit i _ _ _ => some i
  | dispatch i => some i

/-! ### Initial state -/

def resetThread (th : Thread) (threadIdx : ℕ) : Thread :=
  { th with
    threadIdx := threadIdx
    isOnline := false
    hasEvent := false
    evFromSqe := false
    pktLen := 0
    sqeNode := none }

/-- The pool after `init_state`; `junk` is what the packet buffers hold. -/
def initPool (threadC : ℕ) (junk : ℕ → ℕ → UInt8) : Pool where
  threadC := threadC
  stopEl := false
  threads i := resetThread ⟨i, false, false, false, 0, none, Buf.fresh (junk i), 0⟩ i
  threadStk := fillStk threadC
  sqes := Fifo.empty 100000
  main := .idle
  workers _ := none
  nextTid := 0
  aborted := false
  nextTicket := 0
  payload _ := []
  accepted := []
  handled := []
  destroyed := []

/-! ### The main thread -/

def hostU16 (b : Buf) (off : ℕ) : ℕ := (b.mem off).toNat + 256 * (b.mem (off + 1)).toNat

/-- `que_enqueue` on the queue of SQEs. `alloc` is the memory `aligned_alloc` returns, `none`
when it fails. The error is the `errno` left for the caller. -/
def queEnqueue (que : Fifo QueNode) (data : List UInt8) (alloc : Option (ℕ → UInt8)) (ticket : ℕ) :
    Except ℤ (Fifo QueNode) :=
  if que.isFull then .error EAGAIN
  else match alloc with
    | none => .error ENOMEM
    | some junk =>
      .ok (que.push ⟨data.length, ((Buf.fresh junk).put 0 data).put data.length [0], ticket⟩)

def enqueueToSqe (p : Pool) (chanPkt : Buf) (cpyLen : ℕ) (alloc : Option (ℕ → UInt8)) (ticket : ℕ) :
    ℤ × Pool :=
  match queEnqueue p.sqes (chanPkt.read 0 cpyLen) alloc ticket with
  | .error err => (-err, p)
  | .ok que => (0, { p with sqes := que, accepted := ticket :: p.accepted })

/-- `submit_event` up to the release of `thread_stk_lock`, and to its end when no worker is
free: then the result is its return value, else it is `none` and the slot is still to be
written. -/
def submitEvent (p : Pool) (fdataLen : ℕ) (chanPkt : Buf) (alloc : Option (ℕ → UInt8)) :
    Option ℤ × Pool :=
  let cpyLen := offsetofData + fdataLen
  let ticket := p.nextTicket
  let p := { p with
    nextTicket := ticket + 1
    payload := Function.update p.payload ticket (chanPkt.read offsetofData fdataLen) }
  let (popRet, stk) := tssPop p.threadStk
  if popRet = -1 then
    let (ret, p) := enqueueToSqe p chanPkt cpyLen alloc ticket
    (some ret, p)
  else (none, { p with threadStk := stk, main := .submit popRet.toNat cpyLen chanPkt ticket })

def spawnThread (p : Pool) (i create : ℕ) : ℤ × Pool :=
  -- `create` is what `pthread_create` returns
  if create = 0 then
    (0, { p with
      workers := Function.update p.workers p.nextTid (some ⟨i, .spawned⟩)
      nextTid := p.nextTid + 1 })
  else (-create, p)

def submitStore (th : Thread) (chanPkt : Buf) (cpyLen ticket : ℕ) : Thread :=
  { th with
    evFromSqe := false
    hasEvent := true
    pktLen := cpyLen
    pkt := (th.pkt.put 0 (chanPkt.read 0 cpyLen)).put cpyLen [0]
    ticket := ticket }

/-- `submit_to_thread`: the section under `ev_lock`, then `spawn_thread` for an offline slot.
Nobody else can use the slot between the two. -/
def submitToThread (p : Pool) (i cpyLen : ℕ) (chanPkt : Buf) (ticket create : ℕ) : ℤ × Pool :=
  let th := p.threads i
  let p := { p with
    threads := Function.update p.threads i (submitStore th chanPkt cpyLen ticket)
    main := .idle }
  let (ret, p) := if th.isOnline then (0, p) else spawnThread p i create
  (ret, if ret = 0 then { p with accepted := ticket :: p.accepted } else p)

def dispatchStore (th : Thread) (node : QueNode) : Thread :=
  { th with
    evFromSqe := true
    hasEvent := true
    pktLen := hostU16 node.data 0
    sqeNode := some node
    ticket := node.ticket }

def dispatchPop (p : Pool) : Pool :=
  let (popRet, stk) := tssPop p.threadStk
  if popRet = -1 then p else { p with threadStk := stk, main := .dispatch popRet.toNat }

/-- `dispatch_sqe` after its `tss_pop`; an empty queue is the `panic`. -/
def dispatchSqe (p : Pool) (i create : ℕ) : Pool :=
  match p.sqes.dequeue with
  | none => { p with aborted := true }
  | some (node, que) =>
    let th := p.threads i
    let p := { p with
      sqes := que
      threads := Function.update p.threads i (dispatchStore th node)
      main := .idle }
    if th.isOnline then p else (spawnThread p i create).2

/-! ### The workers -/

/-- The string `gwbot_event_handler` hands to `tg_event_load_str`. -/
def Thread.jsonStr (th : Thread) : List UInt8 :=
  if th.evFromSqe then
    match th.sqeNode with
    | some node => node.data.cstr offsetofData (node.len + 1)
    | none => []
  else th.pkt.cstr offsetofData (CHPKT_DATA_BUFSIZ + 1)

/-- No worker is in a section under the `ev_lock` of slot `i`. -/
def Pool.evLockFree (p : Pool) (i : ℕ) : Bool :=
  (List.range p.nextTid).all (fun t => match p.workers t with
    | some w => w.idx != i || !w.phase.holdsEvLock
    | none => true)

def Pool.moveWorker (p : Pool) (tid idx : ℕ) (phase : Phase) : Pool :=
  { p with workers := Function.update p.workers tid (some ⟨idx, phase⟩) }

def Pool.setThread (p : Pool) (i : ℕ) (th : Thread) : Pool :=
  { p with threads := Function.update p.threads i th }

/-- The worker enters `gwbot_event_handler` with the event of its slot. -/
def Pool.enterHandler (p : Pool) (tid idx : ℕ) : Pool :=
  let th := p.threads idx
  { p.moveWorker tid idx .running with handled := (th.ticket, th.jsonStr) :: p.handled }

/-- From `again` to the end of the first test of the loop condition. -/
def workerStart (p : Pool) (tid idx : ℕ) : Pool :=
  let th := { p.threads idx with isOnline := true }
  let p := p.setThread idx th
  if th.hasEvent then p.enterHandler tid idx else p.moveWorker tid idx (.waiting 0)

/-- `gw_cond_timedwait_rel` has returned `ret`, with `ev_lock` taken again. -/
def workerWake (p : Pool) (tid idx counter : ℕ) (ret : ℤ) : Pool :=
  if (ret ≠ 0 ∧ counter = 300) ∨ p.stopEl = true then p.moveWorker tid idx .leaving
  else if (p.threads idx).hasEvent then p.enterHandler tid idx
  else p.moveWorker tid idx (.waiting (if ret ≠ 0 then counter + 1 else counter))

/-- From the return of `gwbot_event_handler` to `thread->has_event = false`, or to `out`. -/
def workerFinish (p : Pool) (tid idx : ℕ) : Pool :=
  let th := p.threads idx
  let freed := if th.evFromSqe then (th.sqeNode.map QueNode.ticket).toList else []
  let th := if th.evFromSqe then { th with sqeNode := none } else th
  let p := { p with destroyed := freed ++ p.destroyed }
  if p.stopEl then (p.setThread idx th).moveWorker tid idx .leaving
  else (p.setThread idx { th with hasEvent := false }).moveWorker tid idx .cleared

def workerPush (p : Pool) (tid idx : ℕ) : Pool :=
  { p.moveWorker tid idx .pushed with
    threadStk := (tssPush p.threadStk (p.threads idx).threadIdx).2 }

/-- `reset_thread` of a worker that left; the worker touches nothing after it. -/
def workerReset (p : Pool) (tid idx : ℕ) : Pool :=
  { p.setThread idx (resetThread (p.threads idx) (p.threads idx).threadIdx) with
    workers := Function.update p.workers tid none }

/-! ### One action of one party -/

inductive PoolAct
  | submitEvent (fdataLen : ℕ) (chanPkt : Buf) (alloc : Option (ℕ → UInt8))
  | submitToThread (create : ℕ)
  | dispatchPop
  | dispatchSqe (create : ℕ)
  | start (tid : ℕ)
  | wake (tid : ℕ) (ret : ℤ)
  | finish (tid : ℕ)
  | push (tid : ℕ)
  | unlock (tid : ℕ)
  | reset (tid : ℕ)
  | interrupt -- `handle_interrupt`

/-- One critical section. `run_event_loop` calls `dispatch_sqe` only if `que_count` is not
zero; an action on a slot whose `ev_lock` is held has to wait. -/
def poolStep (p : Pool) (act : PoolAct) : Option Pool :=
  if p.aborted then none
  else match act with
    | .submitEvent fdataLen chanPkt alloc =>
      match p.main with
      | .idle => some (submitEvent p fdataLen chanPkt alloc).2
      | _ => none
    | .submitToThread create =>
      match p.main with
      | .submit i cpyLen chanPkt ticket =>
        if p.evLockFree i then some (submitToThread p i cpyLen chanPkt ticket create).2 else none
      | _ => none
    | .dispatchPop =>
      match p.main with
      | .idle => if p.sqes.items.length = 0 then none else some (dispatchPop p)
      | _ => none
    | .dispatchSqe create =>
      match p.main with
      | .dispatch i => if p.evLockFree i then some (dispatchSqe p i create) else none
      | _ => none
    | .start tid =>
      match p.workers tid with
      | some ⟨idx, .spawned⟩ | some ⟨idx, .again⟩ =>
        if p.evLockFree idx then some (workerStart p tid idx) else none
      | _ => none
    | .wake tid ret =>
      match p.workers tid with
      | some ⟨idx, .waiting counter⟩ =>
        if p.evLockFree idx then some (workerWake p tid idx counter ret) else none
      | _ => none
    | .finish tid =>
      match p.workers tid with
      | some ⟨idx, .running⟩ => some (workerFinish p tid idx)
      | _ => none
    | .push tid =>
      match p.workers tid with
      | some ⟨idx, .cleared⟩ => some (workerPush p tid idx)
      | _ => none
    | .unlock tid =>
      match p.workers tid with
      | some ⟨idx, .pushed⟩ => some (p.moveWorker tid idx .again)
      | _ => none
    | .reset tid =>
      match p.workers tid with
      | some ⟨idx, .leaving⟩ => some (workerReset p tid idx)
      | _ => none
    | .interrupt => some { p with stopEl := true }

end GNUWeebBot
