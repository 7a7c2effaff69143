import GNUWeebBot.Lib.Buffer
import GNUWeebBot.Model.Base
import GNUWeebBot.Model.Tstack

/-!
# Channels and descriptors

The part of `core/server.c` that only the main thread runs: `run_acceptor`,
`handle_client_event2` up to its call of `submit_event`, and the way out through
`out_close`. What the system calls return is an argument; `openFds` and `eplSet` are the
kernel's view of the descriptors the server has open and has registered.
-/

namespace GNUWeebBot

/-- `struct gwbot_chan`. -/
structure Chan where
  isOnline : Bool
  chanFd : ℤ
  chanIdx : ℕ
  srcPort : ℕ
  srcIp : List UInt8
  acceptedAt : ℤ
  recvS : ℕ
  pkt : Buf

structure Net where
  threadC : ℕ
  tcpFd : ℕ
  chans : ℕ → Chan
  chanStk : Tstack
  eplMap : ℕ → ℕ
  openFds : List ℕ
  eplSet : List ℕ

def resetChan (chan : Chan) (chanIdx : ℕ) : Chan :=
  { chan with
    chanFd := -1
    chanIdx := chanIdx % 2 ^ 16
    acceptedAt := 0
    recvS := 0
    isOnline := false }

/-- The channels after `init_state` and `init_socket`; `junk` is what the packet buffers hold. -/
def initNet (threadC tcpFd : ℕ) (junk : ℕ → ℕ → UInt8) : Net where
  threadC := threadC
  tcpFd := tcpFd
  chans i := resetChan ⟨false, 0, 0, 0, [], 0, 0, Buf.fresh (junk i)⟩ i
  chanStk := fillStk threadC
  eplMap _ := EPL_MAP_TO_NOP
  openFds := [tcpFd]
  eplSet := [tcpFd]

/-- `close(2)`, which takes the descriptor out of the epoll set too. -/
def Net.close (net : Net) (fd : ℕ) : Net :=
  { net with
    openFds := net.openFds.filter (fun k => k != fd)
    eplSet := net.eplSet.filter (fun k => k != fd) }

def Net.setChan (net : Net) (i : ℕ) (chan : Chan) : Net :=
  { net with chans := Function.update net.chans i chan }

/-! ### Accepting -/

/-- `sizeof(struct sockaddr_in)`. -/
def sizeofSockaddrIn : ℕ := 16

/-- What the system calls of one call of `run_acceptor` return: the `errno` of a failure, or
the values it stores. -/
structure AcceptEnv where
  accept : Except ℤ ℕ
  addrLen : ℕ
  srcPort : ℕ
  inetNtop : Option (List UInt8)
  gettimeofday : Except ℤ ℤ
  epollAdd : Option ℤ

def runAcceptor (net : Net) (env : AcceptEnv) : ℤ × Net :=
  match env.accept with
  | .error err => (-err, net)
  | .ok chanFd =>
    let net := { net with openFds := chanFd :: net.openFds }
    if env.addrLen > sizeofSockaddrIn then (-EOVERFLOW, net.close chanFd)
    else match env.inetNtop with
      | none => (-EINVAL, net.close chanFd)
      | some srcIp =>
        let (popRet, stk) := tssPop net.chanStk
        if popRet = -1 then (-EAGAIN, net.close chanFd)
        else
          let net := { net with chanStk := stk }
          let eplMapVal := popRet.toNat + EPL_MAP_SHIFT
          if eplMapVal ≥ EPL_MAP_SIZE then (-EAGAIN, net.close chanFd)
          else match env.gettimeofday with
            | .error err => (-err, net.close chanFd)
            | .ok tvSec => match env.epollAdd with
              | some err => (-err, net.close chanFd)
              | none =>
                let chan := { net.chans popRet.toNat with
                  chanFd := chanFd
                  chanIdx := popRet.toNat % 2 ^ 16
                  acceptedAt := tvSec
                  recvS := 0
                  srcPort := env.srcPort
                  isOnline := true
                  srcIp := srcIp }
                (0, { net.setChan popRet.toNat chan with
                  eplSet := chanFd :: net.eplSet
                  eplMap := Function.update net.eplMap chanFd (eplMapVal % 2 ^ 16) })

/-- `errMask` says whether `revents` has `EPOLLERR` or `EPOLLHUP`. -/
def handleTcpEvent (net : Net) (errMask : Bool) (env : AcceptEnv) : ℤ × Net :=
  if errMask then (-ENETDOWN, net) else runAcceptor net env

/-! ### Receiving -/

/-- `ntohs(pkt->len)`. -/
def netU16 (b : Buf) : ℕ := 256 * (b.mem 0).toNat + (b.mem 1).toNat

def storeU16 (n : ℕ) : List UInt8 := [UInt8.ofNat (n % 256), UInt8.ofNat (n / 256)]

/-- `handle_client_event3` up to its call of `submit_event`: the length it submits, `none` if
it waits for more, or the error it returns. -/
def handleClientEvent3 (recvS : ℕ) (chan : Chan) : Except ℤ (Option ℕ) × Chan :=
  let chan := { chan with recvS := recvS }
  if recvS < offsetofData then (.ok none, chan)
  else
    let fdataLen := netU16 chan.pkt
    let cdataLen := (recvS - offsetofData) % 2 ^ 16
    if fdataLen > CHPKT_DATA_BUFSIZ then (.error (-E2BIG), chan)
    else if cdataLen < fdataLen then (.ok none, chan)
    else if cdataLen > fdataLen then (.error (-EINVAL), chan)
    else (.ok (some fdataLen), { chan with
      pkt := (chan.pkt.put 0 (storeU16 fdataLen)).put (offsetofData + fdataLen) [0] })

/-- The label `out_close` of `handle_client_event2`. Whether `epoll_delete` succeeds makes no
difference, since the descriptor is closed next. -/
def Net.outClose (net : Net) (chanFd i : ℕ) : Net :=
  let chan := net.chans i
  let net := { net with
    chanStk := (tssPush net.chanStk chan.chanIdx).2
    eplMap := Function.update net.eplMap chanFd EPL_MAP_TO_NOP }
  (net.setChan i (resetChan chan chan.chanIdx)).close chanFd

/-- The most bytes `recv` may store, `sizeof(raw_buf) - recv_s`. -/
def recvLen (chan : Chan) : ℕ := sizeSub sizeofRawBuf chan.recvS

/-- `handle_client_event2` up to its call of `submit_event`: the length it submits, or `none`
if it returned without a submission. -/
def handleClientEvent2 (net : Net) (chanFd i : ℕ) (errMask : Bool) (recv : Except ℤ (List UInt8)) :
    Option ℕ × Net :=
  let chan := net.chans i
  if errMask = true ∨ chan.chanFd = -1 then (none, net.outClose chanFd i)
  else match recv with
    | .error err => if err = EAGAIN then (none, net) else (none, net.outClose chanFd i)
    | .ok bytes =>
      if bytes.length = 0 then (none, net.outClose chanFd i)
      else
        let chan := { chan with pkt := chan.pkt.put chan.recvS bytes }
        match handleClientEvent3 (chan.recvS + bytes.length) chan with
        | (.ok none, chan) => (none, net.setChan i chan)
        | (.ok (some fdataLen), chan) => (some fdataLen, net.setChan i chan)
        | (.error _, chan) => (none, (net.setChan i chan).outClose chanFd i)

end GNUWeebBot
