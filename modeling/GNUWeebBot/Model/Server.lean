import GNUWeebBot.Model.Net
import GNUWeebBot.Model.Pool

/-!
# The server

`run_event_loop` with `handle_events`, and the worker pool beside it. The main thread
handles one event at a time; while it is inside `submit_event` the workers go on, so a
submission that finds a free worker is two steps.
-/

namespace GNUWeebBot

structure Server where
  net : Net
  pool : Pool
  batch : List (ℕ × Bool) -- the events `handle_events` has not handled yet
  pending : Option (ℕ × ℕ) -- the channel whose packet is inside `submit_to_thread`
  panicked : Bool

def initServer (threadC tcpFd : ℕ) (chanJunk threadJunk : ℕ → ℕ → UInt8) : Server where
  net := initNet threadC tcpFd chanJunk
  pool := initPool threadC threadJunk
  batch := []
  pending := none
  panicked := false

/-- What `handle_client_event3` and `handle_client_event2` do with the result of
`submit_event`. -/
def afterSubmit (net : Net) (chanFd i : ℕ) (ret : ℤ) : Net :=
  let ret3 := if ret ≠ 0 then ret else -EINPROGRESS
  if ret3 < 0 then net.outClose chanFd i else net

/-- `handle_events` goes on after a zero; else `run_event_loop` waits again or stops. -/
def Server.afterTcpEvent (s : Server) (rest : List (ℕ × Bool)) (ret : ℤ) (net : Net) : Server :=
  if ret = 0 then { s with net := net, batch := rest }
  else if ret = -EAGAIN then { s with net := net, batch := [] }
  else { s with net := net, batch := [], pool := { s.pool with stopEl := true } }

def handleClientEvent (s : Server) (chanFd : ℕ) (errMask : Bool) (recv : Except ℤ (List UInt8))
    (alloc : Option (ℕ → UInt8)) (rest : List (ℕ × Bool)) : Server :=
  let mapTo := s.net.eplMap chanFd
  if mapTo = EPL_MAP_TO_NOP then { s with panicked := true }
  else
    let i := mapTo - EPL_MAP_SHIFT
    match handleClientEvent2 s.net chanFd i errMask recv with
    | (none, net) => { s with net := net, batch := rest }
    | (some fdataLen, net) =>
      match submitEvent s.pool fdataLen (net.chans i).pkt alloc with
      | (some ret, pool) => { s with net := afterSubmit net chanFd i ret, pool := pool, batch := rest }
      | (none, pool) => { s with net := net, pool := pool, batch := rest, pending := some (chanFd, i) }

inductive ServerAct
  | epollWait (events : List (ℕ × Bool))
  | tcpEvent (env : AcceptEnv)
  | clientEvent (recv : Except ℤ (List UInt8)) (alloc : Option (ℕ → UInt8))
  | pool (act : PoolAct)

/-- The main thread is not inside `submit_to_thread` or `dispatch_sqe`. -/
def Server.mainFree (s : Server) : Prop := s.pending = none ∧ s.pool.main.popped = none

instance (s : Server) : Decidable s.mainFree := inferInstanceAs (Decidable (_ ∧ _))

/-- The main thread is at the top of the loop of `run_event_loop`. -/
def Server.atTop (s : Server) : Prop := s.mainFree ∧ s.batch = [] ∧ s.pool.stopEl = false

instance (s : Server) : Decidable s.atTop := inferInstanceAs (Decidable (_ ∧ _))

/-- What is assumed of `epoll_wait`: registered descriptors, each at most once. -/
def BatchOk (net : Net) (events : List (ℕ × Bool)) : Prop :=
  events.length ≤ 32 ∧ (events.map Prod.fst).Nodup ∧ ∀ e ∈ events, e.1 ∈ net.eplSet

instance (net : Net) (events : List (ℕ × Bool)) : Decidable (BatchOk net events) :=
  inferInstanceAs (Decidable (_ ∧ _))

/-- What is assumed of `accept`: a descriptor that is not open and small enough for `epl_map`. -/
def AcceptOk (net : Net) (env : AcceptEnv) : Prop :=
  ∀ fd ∈ env.accept.toOption, fd ∉ net.openFds ∧ fd < EPL_MAP_SIZE

instance (net : Net) (env : AcceptEnv) : Decidable (AcceptOk net env) :=
  inferInstanceAs (Decidable (∀ fd ∈ env.accept.toOption, _))

/-- What `accept` promises: a descriptor that is not open. -/
def AcceptNew (net : Net) (env : AcceptEnv) : Prop := ∀ fd ∈ env.accept.toOption, fd ∉ net.openFds

instance (net : Net) (env : AcceptEnv) : Decidable (AcceptNew net env) :=
  inferInstanceAs (Decidable (∀ fd ∈ env.accept.toOption, _))

lemma AcceptOk.new {net : Net} {env : AcceptEnv} (h : AcceptOk net env) : AcceptNew net env :=
  fun fd hfd => (h fd hfd).1

/-- What is assumed of `recv`: it stores no more than it was asked for. -/
def RecvOk (net : Net) (chanFd : ℕ) (recv : Except ℤ (List UInt8)) : Prop :=
  ∀ bytes ∈ recv.toOption, bytes.length ≤ recvLen (net.chans (net.eplMap chanFd - EPL_MAP_SHIFT))

instance (net : Net) (chanFd : ℕ) (recv : Except ℤ (List UInt8)) : Decidable (RecvOk net chanFd recv) :=
  inferInstanceAs (Decidable (∀ bytes ∈ recv.toOption, _))

/-- The steps of the pool inside the server: `submit_event` is part of `clientEvent`, and after
`submit_to_thread` the main thread goes on with the channel. -/
def poolPart (s : Server) : PoolAct → Option Server
  | .submitEvent _ _ _ => none
  | .submitToThread create =>
    match s.pending, s.pool.main with
    | some (chanFd, j), .submit i cpyLen chanPkt ticket =>
      if s.pool.evLockFree i then
        let (ret, pool) := submitToThread s.pool i cpyLen chanPkt ticket create
        some { s with pool := pool, pending := none, net := afterSubmit s.net chanFd j ret }
      else none
    | _, _ => none
  | .dispatchPop =>
    if s.atTop then (poolStep s.pool .dispatchPop).map (fun pool => { s with pool := pool }) else none
  | act => (poolStep s.pool act).map (fun pool => { s with pool := pool })

def serverStep (s : Server) (act : ServerAct) : Option Server :=
  if s.panicked = true ∨ s.pool.aborted = true then none
  else match act with
    | .epollWait events =>
      if s.atTop ∧ BatchOk s.net events then some { s with batch := events } else none
    | .tcpEvent env =>
      match s.batch with
      | (fd, errMask) :: rest =>
        if s.mainFree ∧ fd = s.net.tcpFd ∧ AcceptOk s.net env then
          let (ret, net) := handleTcpEvent s.net errMask env
          some (s.afterTcpEvent rest ret net)
        else none
      | [] => none
    | .clientEvent recv alloc =>
      match s.batch with
      | (fd, errMask) :: rest =>
        if s.mainFree ∧ fd ≠ s.net.tcpFd ∧ RecvOk s.net fd recv then
          some (handleClientEvent s fd errMask recv alloc rest)
        else none
      | [] => none
    | .pool act => poolPart s act

end GNUWeebBot
