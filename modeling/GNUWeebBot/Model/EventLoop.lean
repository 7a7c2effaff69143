import GNUWeebBot.Model.Server

/-!
# The event loop

`run_event_loop` around the server: `epoll_wait` may fail, and the loop is left by its `break` or when
its condition finds `stop_el`. `caused` only records that a signal came, that the listening socket
reported an error or that `epoll_wait` failed; no branch reads it.
-/

namespace GNUWeebBot

structure EventLoop where
  server : Server
  left : Bool -- past the `break`
  caused : Bool

def initLoop (threadC tcpFd : ℕ) (chanJunk threadJunk : ℕ → ℕ → UInt8) : EventLoop where
  server := initServer threadC tcpFd chanJunk threadJunk
  left := false
  caused := false

inductive LoopAct
  | epollFail (err : ℤ)
  | server (act : ServerAct)

/-- A signal, or an event of the listening socket with `EPOLLERR` or `EPOLLHUP`. -/
def isCause (s : Server) : ServerAct → Bool
  | .pool .interrupt => true
  | .tcpEvent _ => s.batch.head?.any Prod.snd
  | _ => false

def loopStep (l : EventLoop) (act : LoopAct) : Option EventLoop :=
  if l.left then none
  else match act with
    | .epollFail err =>
      if l.server.atTop then
        if err = EINTR then some l else some { l with left := true, caused := true }
      else none
    | .server act =>
      (serverStep l.server act).map (fun server =>
        { l with server := server, caused := l.caused || isCause l.server act })

end GNUWeebBot
