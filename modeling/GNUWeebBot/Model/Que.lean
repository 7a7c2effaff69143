import GNUWeebBot.Lib.Buffer
import GNUWeebBot.Lib.Fill
import GNUWeebBot.Model.Base

/-!
# The linked queue

`lib/que.h` with its nodes on a heap. An address is a number, a null pointer is `none`;
`freed` records the calls of `free` and no branch reads it.
-/

namespace GNUWeebBot

/-- What `lib/que.h` must not do. -/
inductive QueFault
  | tassert
  | badAddress -- an access through a null pointer, or to a block that is not allocated
  | badFree -- `free` of a block that is not allocated
  | fuel -- the loop of `que_destroy` has not ended
deriving DecidableEq

namespace Que

open Fill

abbrev Addr := ℕ

/-- `struct que_node` -/
structure Node where
  next : Option Addr
  prev : Option Addr
  len : ℕ
  data : Buf

/-- `struct que_master` -/
structure Master where
  head : Option Addr
  tail : Option Addr
  count : UInt32
  capacity : UInt32
deriving DecidableEq

structure State where
  que : Master
  heap : Addr → Option Node
  errno : ℤ
  freed : List Addr

abbrev QueM := Fill QueFault State

def queInit (capacity : UInt32) : Master := ⟨none, none, 0, capacity⟩

def queCount (que : Master) : UInt32 := que.count

def tassert (expr : State → Bool) : QueM Unit := fun s =>
  if expr s then .next () s else .fault .tassert s

/-- `*p` -/
def load (p : Option Addr) : QueM Node := fun s =>
  match p.bind s.heap with
  | some node => .next node s
  | none => .fault .badAddress s

def setNode (s : State) (a : Addr) (node : Node) : State :=
  { s with heap := Function.update s.heap a (some node) }

/-- A store into a member of `*p`. -/
def store (p : Option Addr) (f : Node → Node) : QueM Unit := fun s =>
  match p with
  | none => .fault .badAddress s
  | some a =>
    match s.heap a with
    | some node => .next () (setNode s a (f node))
    | none => .fault .badAddress s

def setQue (f : Master → Master) : QueM Unit := modify (fun s => { s with que := f s.que })

def setErrno (err : ℤ) : QueM Unit := modify (fun s => { s with errno := err })

/-- The stores of `que_enqueue` into the new node. -/
def fillNode (node : Addr) (data : List UInt8) : QueM Unit := do
  store (some node) (fun n => { n with len := data.length })
  store (some node) (fun n => { n with next := none })
  store (some node) (fun n => { n with data := n.data.put 0 data })
  store (some node) (fun n => { n with data := n.data.put data.length [0] })

/-- `que_enqueue` from the load of `que->head` on, up to `que->count++`. -/
def linkNode (node : Addr) : QueM Unit := do
  let head ← read (fun s => s.que.head)
  let tail ← read (fun s => s.que.tail)
  if head = none then do
    tassert (fun _ => tail = none)
    store (some node) (fun n => { n with prev := none })
    setQue (fun que => { que with head := some node, tail := some node })
  else do
    tassert (fun _ => tail ≠ none)
    store (some node) (fun n => { n with prev := tail })
    store tail (fun n => { n with next := some node })
    setQue (fun que => { que with tail := some node })

/-- `alloc` is what `aligned_alloc` returns: the error, or the block with what is in it. -/
def queEnqueue (data : List UInt8) (alloc : Except ℤ (Addr × Node)) : QueM (Option Addr) := do
  let capacity ← read (fun s => s.que.capacity)
  let count ← read (fun s => s.que.count)
  if count ≥ capacity then do
    setErrno EAGAIN
    pure none
  else
    match alloc with
    | .error err => do
      setErrno err
      pure none
    | .ok (node, raw) => do
      modify (fun s => setNode s node raw)
      fillNode node data
      linkNode node
      setQue (fun que => { que with count := que.count + 1 })
      pure (some node)

/-- `que_dequeue` behind the load of `head->next`, up to `que->count--`. -/
def unlinkHead (ret head : Option Addr) : QueM Unit :=
  if head = none then do
    let tail ← read (fun s => s.que.tail)
    tassert (fun s => s.que.count = 1)
    tassert (fun _ => ret = tail)
    setQue (fun que => { que with head := none, tail := none })
  else setQue (fun que => { que with head := head })

def queDequeue : QueM (Option Addr) := do
  let count ← read (fun s => s.que.count)
  if count = 0 then do
    tassert (fun s => s.que.head = none)
    tassert (fun s => s.que.tail = none)
    pure none
  else do
    let ret ← read (fun s => s.que.head)
    let node ← load ret
    unlinkHead ret node.next
    setQue (fun que => { que with count := que.count - 1 })
    pure ret

/-- `free(node)` -/
def queNodeDestroy (node : Option Addr) : QueM Unit := fun s =>
  match node with
  | none => .next () s
  | some a =>
    match s.heap a with
    | some _ => .next () { s with heap := Function.update s.heap a none, freed := s.freed ++ [a] }
    | none => .fault .badFree s

/-- The loop of `que_destroy`. -/
def destroyLoop : ℕ → Option Addr → QueM Unit
  | _, none => pure ()
  | 0, some _ => crash .fuel
  | fuel + 1, some tmp => do
    let node ← load (some tmp)
    queNodeDestroy (some tmp)
    destroyLoop fuel node.next

def queDestroy (fuel : ℕ) : QueM Unit := do
  let count ← read (fun s => s.que.count)
  if count = 0 then setQue (fun _ => queInit 0)
  else do
    let head ← read (fun s => s.que.head)
    destroyLoop fuel head
    setQue (fun _ => queInit 0)

/-- What a user of the queue calls. `enqueue` gets the block that `aligned_alloc` finds;
`destroy` is `que_node_destroy`. -/
inductive Op
  | enqueue (data : List UInt8) (node : Addr) (raw : Node)
  | dequeue
  | destroy (node : Addr)

def op : Op → QueM (Option Addr)
  | .enqueue data node raw => queEnqueue data (.ok (node, raw))
  | .dequeue => queDequeue
  | .destroy node => do
    queNodeDestroy (some node)
    pure none

/-! ### The user of a queue -/

/-- What the user calls; `alloc` is what `aligned_alloc` returns then. -/
inductive Call
  | enqueue (data : List UInt8) (alloc : Except ℤ (Addr × Node))
  | dequeue
  | destroy (node : Addr)

/-- The queue, and the nodes that the user has from it. -/
structure User where
  state : State
  taken : List Addr

namespace User

/-- `aligned_alloc` returns no block that is in use, and the user destroys only what it has. -/
def allows (u : User) : Call → Bool
  | .enqueue _ (.error _) => true
  | .enqueue _ (.ok (node, _)) => (u.state.heap node).isNone
  | .dequeue => true
  | .destroy node => decide (node ∈ u.taken)

/-- The state behind a call that returns. -/
def call (u : User) : Call → Option User
  | .enqueue data alloc =>
    match queEnqueue data alloc u.state with
    | .next _ s => some { u with state := s }
    | _ => none
  | .dequeue =>
    match queDequeue u.state with
    | .next (some node) s => some ⟨s, node :: u.taken⟩
    | .next none s => some { u with state := s }
    | _ => none
  | .destroy node =>
    match queNodeDestroy (some node) u.state with
    | .next () s => some ⟨s, u.taken.filter (fun a => a != node)⟩
    | _ => none

def step (u : User) (c : Call) : Option User := if u.allows c then u.call c else none

/-- The user of a new queue. -/
def init (capacity : UInt32) (errno : ℤ) (freed : List Addr) : User :=
  ⟨⟨queInit capacity, fun _ => none, errno, freed⟩, []⟩

end User

end Que

end GNUWeebBot
