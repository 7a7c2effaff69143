import GNUWeebBot.Model.Server

/-!
# The life of the server

What `core/server.c` does around the event loop: `monitor_client_time` before each `epoll_wait`, the
count of the threads that are online, and `destroy_state` with `close_fds` and `wait_for_threads`.
-/

namespace GNUWeebBot

/-! ### `close_fds` -/

def onlineSlots (threadC : ℕ) (chans : ℕ → Chan) : List ℕ := (List.range threadC).filter (fun i => (chans i).isOnline)

/-- The descriptors in the order in which they are closed, and the channels afterwards. -/
def closeFds (tcpFd eplFd : ℤ) (threadC : ℕ) (chans : ℕ → Chan) : List ℤ × (ℕ → Chan) :=
  ((if tcpFd ≠ -1 then [tcpFd] else []) ++ (if eplFd ≠ -1 then [eplFd] else []) ++
      (onlineSlots threadC chans).map (fun i => (chans i).chanFd),
    fun i => if i < threadC ∧ (chans i).isOnline = true then resetChan (chans i) (chans i).chanIdx else chans i)

/-! ### `monitor_client_time` -/

/-- The descriptors that are shut down at a time. -/
def monitorClientTime (net : Net) (now : ℤ) : List ℤ :=
  ((onlineSlots net.threadC net.chans).filter (fun i => decide (now - (net.chans i).acceptedAt > 10))).map
    (fun i => (net.chans i).chanFd)

/-- `shut` are the open descriptors that were shut down, and `clock` is the time of the last call. `turn`
only records the time of the call in this turn of the loop, if `epoll_wait` had room for every event
then and none of them was dropped since. -/
structure Timed where
  server : Server
  shut : List ℤ
  clock : ℤ
  turn : Option ℤ

def initTimed (threadC tcpFd : ℕ) (chanJunk threadJunk : ℕ → ℕ → UInt8) : Timed where
  server := initServer threadC tcpFd chanJunk threadJunk
  shut := []
  clock := 0
  turn := none

inductive TimedAct
  | turn (gettimeofday : Except ℤ ℤ) (events : List (ℕ × Bool)) -- up to the return of `epoll_wait`
  | server (act : ServerAct)

/-- What is assumed of `epoll_wait` about descriptors that were shut down: they hang up, and they are
reported again and again. -/
def ReportsShut (shut : List ℤ) (events : List (ℕ × Bool)) : Prop :=
  (∀ e ∈ events, (e.1 : ℤ) ∈ shut → e.2 = true) ∧ (events.length < 32 → ∀ fd ∈ shut, fd ∈ events.map (fun e => (e.1 : ℤ)))

instance (shut : List ℤ) (events : List (ℕ × Bool)) : Decidable (ReportsShut shut events) :=
  inferInstanceAs (Decidable (_ ∧ _))

/-- The clock does not go back. -/
def ClockOk (clock : ℤ) : ServerAct → Prop
  | .tcpEvent env => ∀ tv ∈ env.gettimeofday.toOption, clock ≤ tv
  | _ => True

instance (clock : ℤ) (act : ServerAct) : Decidable (ClockOk clock act) :=
  match act with
  | .tcpEvent env => inferInstanceAs (Decidable (∀ tv ∈ env.gettimeofday.toOption, clock ≤ tv))
  | .epollWait _ | .clientEvent _ _ | .pool _ => inferInstanceAs (Decidable True)

/-- `handle_events` returns before the end of the batch. -/
def dropsEvents (s : Server) : ServerAct → Bool
  | .tcpEvent env =>
    match s.batch with
    | (_, errMask) :: _ :: _ => (handleTcpEvent s.net errMask env).1 != 0
    | _ => false
  | _ => false

/-- The part of a turn before `epoll_wait`: `shut`, `clock` and the time that was read. -/
def beforeWait (t : Timed) (gettimeofday : Except ℤ ℤ) : List ℤ × ℤ × Option ℤ :=
  let net := t.server.net
  if tssCount net.chanStk ≠ net.chanStk.capacity then
    match gettimeofday with
    | .error _ => (t.shut, t.clock, none)
    | .ok now => (monitorClientTime net now ++ t.shut, now, some now)
  else (t.shut, t.clock, none)

def timedStep (t : Timed) : TimedAct → Option Timed
  | .turn gettimeofday events =>
    let (shut, clock, time) := beforeWait t gettimeofday
    if t.clock ≤ clock ∧ ReportsShut shut events then
      (serverStep t.server (.epollWait events)).map (fun server =>
        ⟨server, shut, clock, if events.length < 32 then time else none⟩)
    else none
  | .server (.epollWait _) => none
  | .server act =>
    if ClockOk t.clock act then
      (serverStep t.server act).map (fun server =>
        { server := server
          shut := t.shut.filter (fun fd => server.net.openFds.contains fd.toNat)
          clock := t.clock
          turn := if dropsEvents t.server act then none else t.turn })
    else none

/-! ### `online_thread` and `wait_for_threads` -/

/-- Where the main thread is after `run_event_loop`. -/
inductive Shutdown
  | no
  | waiting (counter : Option ℕ) -- in `wait_for_threads`, `none` before its first load
  | freed (forced : Bool) -- past `free(state)`; `forced` if the loop was left by its `break`
deriving DecidableEq

def Shutdown.isWaiting : Shutdown → Bool
  | .waiting _ => true
  | .no | .freed _ => false

def Shutdown.isFreed : Shutdown → Bool
  | .freed _ => true
  | .no | .waiting _ => false

/-- `counted` says which workers are between their `atomic_fetch_add` and their `atomic_fetch_sub`, and
`logger` whether the logger thread is. -/
structure Life where
  server : Server
  onlineThread : ℕ
  counted : ℕ → Bool
  logger : Bool
  shutdown : Shutdown

/-- After `init_logger_thread`, which waits until the logger has counted itself. -/
def initLife (threadC tcpFd : ℕ) (chanJunk threadJunk : ℕ → ℕ → UInt8) : Life where
  server := initServer threadC tcpFd chanJunk threadJunk
  onlineThread := 1
  counted _ := false
  logger := true
  shutdown := .no

inductive LifeAct
  | server (act : ServerAct)
  | count (tid : ℕ)
  | uncount (tid : ℕ)
  | stopLogger
  | leaveLoop (epollError : Bool) -- `run_event_loop` returns
  | poll -- one turn of the loop of `wait_for_threads`

/-- The actions of the workers and of the signal handler; the rest belongs to the main thread. -/
def ServerAct.ofThread : ServerAct → Bool
  | .pool (.start _) | .pool (.wake _ _) | .pool (.finish _) | .pool (.push _) | .pool (.unlock _)
  | .pool (.reset _) | .pool .interrupt => true
  | _ => false

/-- A worker takes its first lock only after it has counted itself. -/
def Life.mayStart (l : Life) : ServerAct → Bool
  | .pool (.start tid) => l.counted tid
  | _ => true

/-- `wait_for_threads` loads the counter once, and then after every millisecond until `counter` is over. -/
def waitForThreads (onlineThread : ℕ) : Option ℕ → Shutdown
  | none => if onlineThread = 0 then .freed false else .waiting (some 1)
  | some counter =>
    if counter > 300000 then .freed true
    else if onlineThread = 0 then .freed false
    else .waiting (some (counter + 1))

/-- A worker uncounts itself after its `reset_thread`. There is no step after `free(state)` or `abort`. -/
def lifeStep (l : Life) (act : LifeAct) : Option Life :=
  let s := l.server
  if l.shutdown.isFreed = true ∨ s.panicked = true ∨ s.pool.aborted = true then none
  else match act with
    | .server act =>
      if l.mayStart act = true ∧ (l.shutdown.isWaiting = true → act.ofThread = true) then
        (serverStep s act).map (fun server => { l with server := server })
      else none
    | .count tid =>
      match s.pool.workers tid with
      | some ⟨_, .spawned⟩ =>
        if l.counted tid = false then
          some { l with onlineThread := l.onlineThread + 1, counted := Function.update l.counted tid true }
        else none
      | _ => none
    | .uncount tid =>
      if l.counted tid = true ∧ s.pool.workers tid = none then
        some { l with onlineThread := l.onlineThread - 1, counted := Function.update l.counted tid false }
      else none
    | .stopLogger =>
      if l.logger = true ∧ s.pool.stopEl = true then
        some { l with onlineThread := l.onlineThread - 1, logger := false }
      else none
    | .leaveLoop epollError =>
      if l.shutdown = .no ∧ s.mainFree ∧ s.batch = [] ∧ (s.pool.stopEl = true ∨ epollError = true) then
        some { l with server := { s with pool := { s.pool with stopEl := true } }, shutdown := .waiting none }
      else none
    | .poll =>
      match l.shutdown with
      | .waiting counter => some { l with shutdown := waitForThreads l.onlineThread counter }
      | .no | .freed _ => none

end GNUWeebBot
