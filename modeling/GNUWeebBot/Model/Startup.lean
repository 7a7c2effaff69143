import GNUWeebBot.Lib.Fill
import GNUWeebBot.Lib.Ledger
import GNUWeebBot.Model.Config
import GNUWeebBot.Model.Lifecycle

/-!
# Startup and teardown

`gwbot_run` of `core/server.c` around its event loop: `validate_cfg`, `init_state` and the other `init_*` functions, and
`destroy_state`, as the release build has them (`TEST_INIT_LEAK` is zero). Every call that can fail is an argument, and so is
the server that the event loop leaves. Blocks of the heap are numbered; a `gwlock_t` or `gwcond_t` is a `Guard`.
-/

namespace GNUWeebBot.Startup

open Fill

/-- An `errno` after a call that failed. -/
abbrev Errno := {err : ℤ // 0 < err}

inductive Guard
  | sqeLock | cqeLock | logLock | logCond | threadStkLock
  | evLock (idx : ℕ)
  | evCond (idx : ℕ)
deriving DecidableEq

inductive Block
  | state | chans | threads | eplMap | chanStk | threadStk

/-- `socket` and `epoll_create` give descriptors; the calls on the socket tell why they fail. -/
structure StartEnv where
  alloc : Block → Bool
  pthreadInit : Guard → ℤ
  pthreadCreate : ℤ
  epollCreate : Except Errno ℕ
  socket : Except Errno ℕ
  reuseAddr : Option Errno
  noDelay : Option Errno
  bind : Option Errno
  listen : Option Errno
  epollAdd : Option Errno
  loop : Server × ℤ

inductive HostFault
  | nullChans
  | nullThreads
  | notOpen (fd : ℤ)
deriving DecidableEq

/-- `struct gwbot_state`, zeroed; a pointer into the heap is the number of its block. -/
structure GwbotState where
  stopEl : Bool := false
  tcpFd : ℤ := 0
  eplFd : ℤ := 0
  eplMap : Option (ℕ × (ℕ → ℕ)) := none
  chans : Option (ℕ × (ℕ → Chan)) := none
  threads : Option (ℕ × (ℕ → Thread)) := none
  sqes : Fifo QueNode := Fifo.empty 0
  cqes : Fifo QueNode := Fifo.empty 0
  chanStkArr : Option ℕ := none
  chanStk : Tstack := tssInit 0
  threadStkArr : Option ℕ := none
  threadStk : Tstack := tssInit 0
  needDestroy : Guard → Bool := fun _ => false

/-- The process. `live` are the pthread objects that are initialised, `unborn` those that were destroyed and had never been
initialised, `freedNodes` the tickets of the queue nodes that `que_destroy` freed. -/
structure Host where
  st : GwbotState := {}
  heap : Ledger := {}
  fds : List ℕ := []
  live : Guard → Bool := fun _ => false
  unborn : List Guard := []
  freedNodes : List ℕ := []
  modInitialized : Bool := false -- `is_mod_initialized`
  globalInit : Bool := false -- `global_init` of `lib/tg_api.c`
  mysqlThreads : ℤ := 0 -- `mysql_thread_init` less `mysql_thread_end`

abbrev OnHost := Fill HostFault Host

def setSt (f : GwbotState → GwbotState) : OnHost Unit := modify fun h => { h with st := f h.st }

def calloc (ok : Bool) (code : ℤ) : OnHost ℕ := fun h =>
  if ok then .next h.heap.obtain.1 { h with heap := h.heap.obtain.2 } else .ret code h

def free (block : Option ℕ) : OnHost Unit := modify fun h => { h with heap := h.heap.free block }

def close (fd : ℤ) : OnHost Unit := fun h =>
  if fd ∈ h.fds.map (fun k : ℕ => (k : ℤ)) then .next () { h with fds := h.fds.filter (fun k : ℕ => (k : ℤ) != fd) }
  else .fault (.notOpen fd) h

/-- `gw_mutex_init` and `gw_cond_init`, with what their callers do with the result. -/
def guardInit (guard : Guard) (ret : ℤ) : OnHost Unit := do
  modify fun h => { h with
    st := { h.st with needDestroy := Function.update h.st.needDestroy guard true }
    live := Function.update h.live guard (ret = 0) }
  if ret = 0 then pure () else exit (-(ret.natAbs : ℤ))

/-- `gw_mutex_destroy` and `gw_cond_destroy`. -/
def guardDestroy (guard : Guard) : OnHost Unit := modify fun h =>
  if h.st.needDestroy guard then
    { h with
      st := { h.st with needDestroy := Function.update h.st.needDestroy guard false }
      live := Function.update h.live guard false
      unborn := if h.live guard then h.unborn else guard :: h.unborn }
  else h

/-! ### `validate_cfg` -/

/-- `p == NULL || *p == '\0'`, of a pointer into the arena. -/
def emptyString (arena : Buf) (p : Option ℕ) : Bool := p.all fun off => arena.mem off == 0

def validateMysqlCfg (mysql : MysqlCfg) : ℤ :=
  if mysql.host = none then -EINVAL
  else if mysql.user = none then -EINVAL
  else if mysql.db = none then -EINVAL
  else 0

def validateCfg (cfg : GwbotCfg) (arena : Buf) : ℤ :=
  if emptyString arena cfg.bindAddr then -EINVAL
  else if cfg.bindPort = 0 then -EINVAL
  else if cfg.backlog = 0 then -EINVAL
  else if emptyString arena cfg.token then -EINVAL
  else if cfg.threadC = 0 then -EINVAL
  else if cfg.useDb then validateMysqlCfg cfg.mysql
  else 0

/-! ### `init_state` -/

def zeroChan : Chan := ⟨false, 0, 0, 0, [], 0, 0, Buf.fresh fun _ => 0⟩

def zeroThread : Thread := ⟨0, false, false, false, 0, none, Buf.fresh fun _ => 0, 0⟩

/-- A loop that stores into an array. -/
def fillArray {α : Type} (n : ℕ) (f : ℕ → α → α) (arr : ℕ → α) : ℕ → α :=
  (List.range n).foldl (fun arr i => Function.update arr i (f i (arr i))) arr

section Init

variable (cfg : GwbotCfg) (env : StartEnv)

def initStateChans : OnHost Unit := do
  let chans ← calloc (env.alloc .chans) (-1)
  setSt fun st => { st with chans := some (chans, fillArray cfg.threadC (fun i chan => resetChan chan i) fun _ => zeroChan) }

/-- The first part of `reset_thread`; on a failure the array of the thread is lost. -/
def resetThreadAt (i : ℕ) : OnHost Thread := do
  guardInit (.evLock i) (env.pthreadInit (.evLock i))
  guardInit (.evCond i) (env.pthreadInit (.evCond i))
  pure (resetThread zeroThread i)

def initStateThreads : OnHost Unit := do
  let block ← calloc (env.alloc .threads) (-ENOMEM)
  let threads ← each (resetThreadAt env) (List.range cfg.threadC)
  setSt fun st => { st with threads := some (block, fun i => threads.getD i zeroThread) }

def initEplMap : OnHost Unit := do
  let block ← calloc (env.alloc .eplMap) (-ENOMEM)
  setSt fun st => { st with eplMap := some (block, fillArray EPL_MAP_SIZE (fun _ _ => EPL_MAP_TO_NOP) fun _ => 0) }

/-- The last loop of `init_state`, on both stacks. -/
def pushIndices (st : GwbotState) : GwbotState :=
  (List.range cfg.threadC).reverse.foldl
    (fun st i => { st with chanStk := (tssPush st.chanStk i).2, threadStk := (tssPush st.threadStk i).2 }) st

def initState : OnHost Unit := do
  setSt fun st => { st with stopEl := false, tcpFd := -1, eplFd := -1, eplMap := none, chans := none, threads := none }
  initStateChans cfg env
  initStateThreads cfg env
  initEplMap env
  let chanStk ← calloc (env.alloc .chanStk) (-ENOMEM)
  setSt fun st => { st with chanStkArr := some chanStk, chanStk := tssInit cfg.threadC }
  let threadStk ← calloc (env.alloc .threadStk) (-ENOMEM)
  setSt fun st => { st with threadStkArr := some threadStk, threadStk := tssInit cfg.threadC }
  setSt fun st => { st with sqes := Fifo.empty 100000, cqes := Fifo.empty 100000 }
  guardInit .sqeLock (env.pthreadInit .sqeLock)
  guardInit .cqeLock (env.pthreadInit .cqeLock)
  guardInit .logLock (env.pthreadInit .logLock)
  guardInit .logCond (env.pthreadInit .logCond)
  guardInit .threadStkLock (env.pthreadInit .threadStkLock)
  setSt (pushIndices cfg)
  modify fun h => { h with
    mysqlThreads := if cfg.useDb then h.mysqlThreads + 1 else h.mysqlThreads
    globalInit := true }

/-! ### The rest of the startup -/

def initLoggerThread : OnHost Unit := if env.pthreadCreate = 0 then pure () else exit (-(env.pthreadCreate.natAbs : ℤ))

def initEpoll : OnHost Unit :=
  match env.epollCreate with
  | .error err => exit (-err)
  | .ok fd => modify fun h => { h with fds := fd :: h.fds, st := { h.st with eplFd := fd } }

/-- The `startup` of every module returns zero. -/
def gwbotModuleStartup : OnHost Unit := modify fun h => { h with modInitialized := true }

/-- The calls of `init_socket` and `setup_socket` on the new socket. -/
def setupSocket : Option Errno :=
  env.reuseAddr <|> env.noDelay <|> env.bind <|> env.listen <|> env.epollAdd

def initSocket : OnHost Unit :=
  match env.socket with
  | .error err => exit (-err)
  | .ok fd => do
    modify fun h => { h with fds := fd :: h.fds }
    match setupSocket env with
    | none => setSt fun st => { st with tcpFd := fd }
    | some err => do
      close fd
      exit (-err)

/-- Everything before the event loop. -/
def startUp : OnHost Unit := do
  initState cfg env
  initLoggerThread env
  initEpoll env
  gwbotModuleStartup
  initSocket env

/-- What the loop leaves: the descriptors and the channels, the queue and the workers. -/
def runEventLoop : OnHost Unit := do
  modify fun h =>
    let server := env.loop.1
    { h with
      fds := server.net.openFds ++ h.fds.filter (fun fd : ℕ => (fd : ℤ) == h.st.eplFd)
      st := { h.st with
        stopEl := server.pool.stopEl
        chans := h.st.chans.map fun chans => (chans.1, server.net.chans)
        threads := h.st.threads.map fun threads => (threads.1, server.pool.threads)
        sqes := server.pool.sqes
        chanStk := server.net.chanStk
        threadStk := server.pool.threadStk } }
  exit env.loop.2

/-! ### `destroy_state` -/

/-- `close_fds`; the loop reads `chans[0]` first. -/
def closeFdsOfState : OnHost Unit := do
  let st ← read Host.st
  let _ ← each close ([st.tcpFd, st.eplFd].filter (· ≠ -1))
  setSt fun st => { st with tcpFd := -1, eplFd := -1 }
  match st.chans with
  | none => if cfg.threadC = 0 then pure () else crash .nullChans
  | some (block, chans) => do
    let closed := closeFds (-1) (-1) cfg.threadC chans
    let _ ← each close closed.1
    setSt fun st => { st with chans := some (block, closed.2) }

/-- `que_destroy`. -/
def destroyQue (que : GwbotState → Fifo QueNode) (set : GwbotState → Fifo QueNode → GwbotState) : OnHost Unit := modify fun h =>
  { h with st := set h.st (Fifo.empty 0), freedNodes := h.freedNodes ++ (que h.st).items.map QueNode.ticket }

def destroyThreadGuards (i : ℕ) : OnHost Unit := do
  let st ← read Host.st
  match st.threads with
  | none => crash .nullThreads
  | some _ => do
    guardDestroy (.evLock i)
    guardDestroy (.evCond i)

def destroyState : OnHost Unit := do
  setSt fun st => { st with stopEl := true }
  closeFdsOfState cfg
  modify fun h => { h with modInitialized := false }
  let st ← read Host.st
  free st.chanStkArr
  free st.threadStkArr
  destroyQue GwbotState.sqes fun st que => { st with sqes := que }
  destroyQue GwbotState.cqes fun st que => { st with cqes := que }
  let _ ← each guardDestroy [.logLock, .sqeLock, .cqeLock, .threadStkLock, .logCond]
  let _ ← each destroyThreadGuards (List.range cfg.threadC)
  free (st.eplMap.map Prod.fst)
  free (st.threads.map Prod.fst)
  free (st.chans.map Prod.fst)
  modify fun h => { h with
    globalInit := false
    mysqlThreads := if cfg.useDb then h.mysqlThreads - 1 else h.mysqlThreads }

/-- `malloc` and `memset` of the state come first; it is not freed if the configuration is refused. -/
def gwbotRun (arena : Buf) : OnHost Unit := do
  let state ← calloc (env.alloc .state) (-ENOMEM)
  setSt fun _ => {}
  if validateCfg cfg arena ≠ 0 then exit (validateCfg cfg arena)
  else do
    let ret ← code do
      startUp cfg env
      runEventLoop env
    destroyState cfg
    free (some state)
    exit ret

end Init

end GNUWeebBot.Startup
