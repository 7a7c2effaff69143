import GNUWeebBot.Lib.Transition
import GNUWeebBot.Model.Server

/-!
# What one step of the server can do

`ServerEffect s act s'` lists the outcomes of a step with the guards under which the code
takes them.
-/

namespace GNUWeebBot.Proofs

/-- `run_acceptor` gets past its `tss_pop` and then fails. -/
def LeaksSlot (net : Net) (errMask : Bool) (env : AcceptEnv) : Prop :=
  errMask = false ∧ env.accept.isOk = true ∧ env.addrLen ≤ sizeofSockaddrIn ∧ env.inetNtop.isSome = true ∧
    ∃ i ∈ net.chanStk.toList.head?,
      EPL_MAP_SIZE ≤ i + EPL_MAP_SHIFT ∨ env.gettimeofday.isOk = false ∨ env.epollAdd.isSome = true

def acceptedChan (chan : Chan) (fd i : ℕ) (env : AcceptEnv) (srcIp : List UInt8) (tvSec : ℤ) : Chan :=
  { chan with
    chanFd := fd
    chanIdx := i % 2 ^ 16
    acceptedAt := tvSec
    recvS := 0
    srcPort := env.srcPort
    isOnline := true
    srcIp := srcIp }

def acceptedNet (net : Net) (stk : Tstack) (fd i : ℕ) (chan : Chan) : Net :=
  { net with
    openFds := fd :: net.openFds
    chanStk := stk
    chans := Function.update net.chans i chan
    eplSet := fd :: net.eplSet
    eplMap := Function.update net.eplMap fd ((i + EPL_MAP_SHIFT) % 2 ^ 16) }

inductive AcceptEffect (net : Net) (errMask : Bool) (env : AcceptEnv) : ℤ → Net → Prop
  | refuse (ret : ℤ) (hkeep : ¬LeaksSlot net errMask env) : AcceptEffect net errMask env ret net
  | leak (ret : ℤ) (i : ℕ) (stk : Tstack) (hleak : LeaksSlot net errMask env)
      (hstk : net.chanStk.toList = i :: stk.toList) (hok : stk.Ok)
      (hcap : stk.capacity = net.chanStk.capacity) :
      AcceptEffect net errMask env ret { net with chanStk := stk }
  | accept (fd i : ℕ) (stk : Tstack) (srcIp : List UInt8) (tvSec : ℤ)
      (hkeep : ¬LeaksSlot net errMask env) (hfd : env.accept = .ok fd)
      (hstk : net.chanStk.toList = i :: stk.toList) (hok : stk.Ok)
      (hcap : stk.capacity = net.chanStk.capacity) (hi : i + EPL_MAP_SHIFT < EPL_MAP_SIZE) :
      AcceptEffect net errMask env 0
        (acceptedNet net stk fd i (acceptedChan (net.chans i) fd i env srcIp tvSec))

/-- Opening and closing a new descriptor leaves the kernel's lists as they were. -/
lemma close_new (net : Net) {fd : ℕ} (hfd : fd ∉ net.openFds) (hset : fd ∉ net.eplSet) :
    ({ net with openFds := fd :: net.openFds } : Net).close fd = net := by
  have ho : (fd :: net.openFds).filter (fun k => k != fd) = net.openFds := by
    rw [List.filter_cons_of_neg (by simp), List.filter_eq_self]
    intro k hk
    simpa using fun he : k = fd => hfd (he ▸ hk)
  have hs : net.eplSet.filter (fun k => k != fd) = net.eplSet := by
    rw [List.filter_eq_self]
    intro k hk
    simpa using fun he : k = fd => hset (he ▸ hk)
  simp only [Net.close, ho, hs]

lemma handleTcpEvent_effect {net : Net} {env : AcceptEnv} (errMask : Bool) (hok : net.chanStk.Ok)
    (hacc : AcceptNew net env) (hsub : ∀ fd ∈ net.eplSet, fd ∈ net.openFds) :
    AcceptEffect net errMask env (handleTcpEvent net errMask env).1 (handleTcpEvent net errMask env).2 := by
  cases errMask with
  | true => exact .refuse _ (by simp [LeaksSlot])
  | false =>
    simp only [handleTcpEvent, Bool.false_eq_true, if_false, runAcceptor]
    cases hfd : env.accept with
    | error err => exact .refuse _ (by simp [LeaksSlot, hfd, Except.isOk, Except.toBool])
    | ok fd =>
      have hnew : fd ∉ net.openFds := hacc fd (by simp [hfd, Except.toOption])
      have hclose := close_new net hnew (fun hm => hnew (hsub fd hm))
      have hclose' : ∀ stk, ({ net with openFds := fd :: net.openFds, chanStk := stk } : Net).close fd =
          { net with chanStk := stk } := fun stk => congrArg (fun n : Net => { n with chanStk := stk }) hclose
      by_cases hlen : env.addrLen > sizeofSockaddrIn
      · simp only [if_pos hlen, hclose]
        exact .refuse _ (fun hl => absurd hl.2.2.1 (by omega))
      · simp only [if_neg hlen]
        cases hip : env.inetNtop with
        | none =>
          simp only [hclose]
          exact .refuse _ (fun hl => by simpa [hip] using hl.2.2.2.1)
        | some srcIp =>
          rcases Tstack.tssPop_cases hok with ⟨hl, hp⟩ | ⟨i, stk, hl, hp, hok', hcap⟩
          · simp only [hp, if_true, hclose]
            exact .refuse _ (fun hl' => by simpa [hl] using hl'.2.2.2.2)
          · have hne : (i : ℤ) ≠ -1 := by omega
            have hleaks : LeaksSlot net false env ↔ (EPL_MAP_SIZE ≤ i + EPL_MAP_SHIFT ∨
                env.gettimeofday.isOk = false ∨ env.epollAdd.isSome = true) := by
              simp [LeaksSlot, hfd, hip, hl, Except.isOk, Except.toBool, Nat.le_of_not_gt hlen]
            simp only [hp, if_neg hne, Int.toNat_natCast, hclose']
            by_cases hbig : i + EPL_MAP_SHIFT ≥ EPL_MAP_SIZE
            · simp only [if_pos hbig]
              exact .leak _ i stk (hleaks.mpr (Or.inl hbig)) hl hok' hcap
            · simp only [if_neg hbig]
              cases htv : env.gettimeofday with
              | error err =>
                exact .leak _ i stk (hleaks.mpr (Or.inr (Or.inl (by simp [htv, Except.isOk, Except.toBool])))) hl hok' hcap
              | ok tvSec =>
                cases hadd : env.epollAdd with
                | some err =>
                  exact .leak _ i stk (hleaks.mpr (Or.inr (Or.inr (by simp [hadd])))) hl hok' hcap
                | none =>
                  refine .accept fd i stk srcIp tvSec ?_ hfd hl hok' hcap (by omega)
                  rw [hleaks]
                  simp only [htv, hadd, Except.isOk, Except.toBool]
                  simp only [Option.isSome_none, Bool.false_eq_true, or_false, Bool.true_eq_false]
                  omega

/-! ### Client events -/

/-- The channel after `recv` has stored `bytes`. -/
def receivedChan (chan : Chan) (bytes : List UInt8) : Chan :=
  { chan with
    pkt := chan.pkt.put chan.recvS bytes
    recvS := chan.recvS + bytes.length }

/-- The channel when its packet is handed to `submit_event`. -/
def framedChan (chan : Chan) : Chan :=
  { chan with
    pkt := (chan.pkt.put 0 (storeU16 (netU16 chan.pkt))).put (offsetofData + netU16 chan.pkt) [0] }

def cdataLen (chan : Chan) : ℕ := (chan.recvS - offsetofData) % 2 ^ 16

def Waits (chan : Chan) : Prop :=
  chan.recvS < offsetofData ∨ (netU16 chan.pkt ≤ CHPKT_DATA_BUFSIZ ∧ cdataLen chan < netU16 chan.pkt)

def Rejects (chan : Chan) : Prop :=
  offsetofData ≤ chan.recvS ∧ (CHPKT_DATA_BUFSIZ < netU16 chan.pkt ∨ netU16 chan.pkt < cdataLen chan)

def Completes (chan : Chan) : Prop :=
  offsetofData ≤ chan.recvS ∧ netU16 chan.pkt ≤ CHPKT_DATA_BUFSIZ ∧ cdataLen chan = netU16 chan.pkt

lemma handleClientEvent3_cases (recvS : ℕ) (chan : Chan) :
    (Waits { chan with recvS := recvS } ∧
      handleClientEvent3 recvS chan = (.ok none, { chan with recvS := recvS })) ∨
    (Rejects { chan with recvS := recvS } ∧
      ∃ err, handleClientEvent3 recvS chan = (.error err, { chan with recvS := recvS })) ∨
    (Completes { chan with recvS := recvS } ∧ handleClientEvent3 recvS chan =
      (.ok (some (netU16 chan.pkt)), framedChan { chan with recvS := recvS })) := by
  unfold handleClientEvent3 Waits Rejects Completes cdataLen
  by_cases hhead : recvS < offsetofData
  · exact Or.inl ⟨Or.inl hhead, by simp [hhead]⟩
  · simp only [if_neg hhead]
    by_cases hbig : netU16 chan.pkt > CHPKT_DATA_BUFSIZ
    · exact Or.inr (Or.inl ⟨⟨by omega, Or.inl hbig⟩, -E2BIG, by simp [hbig]⟩)
    · simp only [if_neg hbig]
      by_cases hlt : (recvS - offsetofData) % 2 ^ 16 < netU16 chan.pkt
      · exact Or.inl ⟨Or.inr ⟨by omega, hlt⟩, by simp only [if_pos hlt]⟩
      · simp only [if_neg hlt]
        by_cases hgt : (recvS - offsetofData) % 2 ^ 16 > netU16 chan.pkt
        · exact Or.inr (Or.inl ⟨⟨by omega, Or.inr hgt⟩, -EINVAL, by simp only [if_pos hgt]⟩)
        · exact Or.inr (Or.inr ⟨⟨by omega, by omega, by omega⟩, by simp only [if_neg hgt]; rfl⟩)

inductive ClientEffect (net : Net) (chanFd i : ℕ) (errMask : Bool) : Except ℤ (List UInt8) →
    Option ℕ → Net → Prop
  | again (herr : errMask = false) : ClientEffect net chanFd i errMask (.error EAGAIN) none net
  | hangup (recv : Except ℤ (List UInt8))
      (hout : errMask = true ∨ (net.chans i).chanFd = -1 ∨ (∃ err, recv = .error err ∧ err ≠ EAGAIN) ∨ recv = .ok []) :
      ClientEffect net chanFd i errMask recv none (net.outClose chanFd i)
  | more (bytes : List UInt8) (herr : errMask = false) (hne : bytes ≠ [])
      (hwait : Waits (receivedChan (net.chans i) bytes)) :
      ClientEffect net chanFd i errMask (.ok bytes) none (net.setChan i (receivedChan (net.chans i) bytes))
  | reject (bytes : List UInt8) (herr : errMask = false) (hne : bytes ≠ [])
      (hrej : Rejects (receivedChan (net.chans i) bytes)) :
      ClientEffect net chanFd i errMask (.ok bytes) none
        ((net.setChan i (receivedChan (net.chans i) bytes)).outClose chanFd i)
  | complete (bytes : List UInt8) (herr : errMask = false) (hne : bytes ≠ [])
      (hcomp : Completes (receivedChan (net.chans i) bytes)) :
      ClientEffect net chanFd i errMask (.ok bytes)
        (some (netU16 (receivedChan (net.chans i) bytes).pkt))
        (net.setChan i (framedChan (receivedChan (net.chans i) bytes)))

lemma handleClientEvent2_effect (net : Net) (chanFd i : ℕ) (errMask : Bool)
    (recv : Except ℤ (List UInt8)) :
    ClientEffect net chanFd i errMask recv (handleClientEvent2 net chanFd i errMask recv).1
      (handleClientEvent2 net chanFd i errMask recv).2 := by
  unfold handleClientEvent2
  by_cases hbad : errMask = true ∨ (net.chans i).chanFd = -1
  · simp only [if_pos hbad]
    exact .hangup recv (hbad.imp_right Or.inl)
  · simp only [if_neg hbad]
    have herr : errMask = false := by
      rw [not_or, Bool.not_eq_true] at hbad
      exact hbad.1
    cases recv with
    | error err =>
      by_cases hag : err = EAGAIN
      · subst hag
        simp only [if_true]
        exact .again herr
      · simp only [if_neg hag]
        exact .hangup _ (Or.inr (Or.inr (Or.inl ⟨err, rfl, hag⟩)))
    | ok bytes =>
      by_cases hlen : bytes.length = 0
      · obtain rfl := List.length_eq_zero_iff.mp hlen
        simp only [List.length_nil, if_true]
        exact .hangup _ (Or.inr (Or.inr (Or.inr rfl)))
      · have hne : bytes ≠ [] := fun he => hlen (by rw [he, List.length_nil])
        simp only [if_neg hlen]
        rcases handleClientEvent3_cases ((net.chans i).recvS + bytes.length)
            { net.chans i with pkt := (net.chans i).pkt.put (net.chans i).recvS bytes }
          with ⟨hw, he⟩ | ⟨hr, err, he⟩ | ⟨hc, he⟩
        · simp only [he]
          exact .more bytes herr hne hw
        · simp only [he]
          exact .reject bytes herr hne hr
        · simp only [he]
          exact .complete bytes herr hne hc

/-! ### The result of `submit_event` -/

lemma afterSubmit_of_nonpos (net : Net) (chanFd i : ℕ) {ret : ℤ} (hret : ret ≤ 0) :
    afterSubmit net chanFd i ret = net.outClose chanFd i := by
  unfold afterSubmit
  by_cases h0 : ret = 0
  · simp [h0, EINPROGRESS]
  · have hlt : ret < 0 := by omega
    simp [h0, hlt]

lemma submitEvent_ret {p pool : Pool} {n : ℕ} {b : Buf} {alloc : Option (ℕ → UInt8)} {ret : ℤ}
    (h : submitEvent p n b alloc = (some ret, pool)) : ret ≤ 0 ∧ pool.main = p.main := by
  simp only [submitEvent] at h
  split at h
  · simp only [enqueueToSqe] at h
    split at h
    · rename_i err herr
      obtain ⟨rfl, rfl⟩ : -err = ret ∧ _ = pool := by simpa using h
      refine ⟨?_, rfl⟩
      unfold queEnqueue at herr
      split at herr
      · cases herr
        simp [EAGAIN]
      · split at herr
        · cases herr
          simp [ENOMEM]
        · cases herr
    · obtain ⟨rfl, rfl⟩ : (0 : ℤ) = ret ∧ _ = pool := by simpa using h
      exact ⟨Int.le_refl 0, rfl⟩
  · cases h

lemma submitEvent_popped {p pool : Pool} {n : ℕ} {b : Buf} {alloc : Option (ℕ → UInt8)}
    (h : submitEvent p n b alloc = (none, pool)) : pool.main.popped ≠ none := by
  simp only [submitEvent] at h
  split at h
  · cases h
  · cases h
    simp [MainPc.popped]

lemma submitToThread_ret (p : Pool) (i cpyLen : ℕ) (b : Buf) (ticket create : ℕ) :
    (submitToThread p i cpyLen b ticket create).1 ≤ 0 := by
  unfold submitToThread spawnThread
  cases hon : (p.threads i).isOnline with
  | true => simp [hon]
  | false =>
    by_cases hc : create = 0
    · simp [hon, hc]
    · simp [hon, hc]

lemma idle_of_popped {m : MainPc} (h : m.popped = none) : m = .idle := by
  cases m with
  | idle => rfl
  | submit i c b t => cases h
  | dispatch i => cases h

/-! ### Steps of the server -/

inductive ServerEffect (s : Server) : ServerAct → Server → Prop
  | wait (events : List (ℕ × Bool)) (hmain : s.mainFree) (hbatch : s.batch = [])
      (hok : BatchOk s.net events) : ServerEffect s (.epollWait events) { s with batch := events }
  | tcp (env : AcceptEnv) (errMask : Bool) (rest batch : List (ℕ × Bool)) (ret : ℤ) (net : Net)
      (stop : Bool) (hmain : s.mainFree) (hbatch : s.batch = (s.net.tcpFd, errMask) :: rest)
      (hacc : AcceptOk s.net env) (heff : AcceptEffect s.net errMask env ret net)
      (hrest : batch = rest ∨ batch = []) (hstop : stop = s.pool.stopEl ∨ stop = true) :
      ServerEffect s (.tcpEvent env)
        { s with net := net, batch := batch, pool := { s.pool with stopEl := stop } }
  | panic (recv : Except ℤ (List UInt8)) (alloc : Option (ℕ → UInt8)) (fd : ℕ) (errMask : Bool)
      (rest : List (ℕ × Bool)) (hbatch : s.batch = (fd, errMask) :: rest) (hfd : fd ≠ s.net.tcpFd)
      (hmap : s.net.eplMap fd = EPL_MAP_TO_NOP) :
      ServerEffect s (.clientEvent recv alloc) { s with panicked := true }
  | client (recv : Except ℤ (List UInt8)) (alloc : Option (ℕ → UInt8)) (fd : ℕ) (errMask : Bool)
      (rest : List (ℕ × Bool)) (net : Net) (hmain : s.mainFree)
      (hbatch : s.batch = (fd, errMask) :: rest) (hfd : fd ≠ s.net.tcpFd)
      (hrecv : RecvOk s.net fd recv) (hmap : s.net.eplMap fd ≠ EPL_MAP_TO_NOP)
      (heff : ClientEffect s.net fd (s.net.eplMap fd - EPL_MAP_SHIFT) errMask recv none net) :
      ServerEffect s (.clientEvent recv alloc) { s with net := net, batch := rest }
  | enqueue (recv : Except ℤ (List UInt8)) (alloc : Option (ℕ → UInt8)) (fd : ℕ) (errMask : Bool)
      (rest : List (ℕ × Bool)) (n : ℕ) (net : Net) (pool : Pool) (hmain : s.mainFree)
      (hbatch : s.batch = (fd, errMask) :: rest) (hfd : fd ≠ s.net.tcpFd)
      (hrecv : RecvOk s.net fd recv) (hmap : s.net.eplMap fd ≠ EPL_MAP_TO_NOP)
      (heff : ClientEffect s.net fd (s.net.eplMap fd - EPL_MAP_SHIFT) errMask recv (some n) net)
      (hpool : poolStep s.pool
        (.submitEvent n (net.chans (s.net.eplMap fd - EPL_MAP_SHIFT)).pkt alloc) = some pool)
      (hidle : pool.main = .idle) :
      ServerEffect s (.clientEvent recv alloc)
        { s with
          net := net.outClose fd (s.net.eplMap fd - EPL_MAP_SHIFT), pool := pool, batch := rest }
  | store (recv : Except ℤ (List UInt8)) (alloc : Option (ℕ → UInt8)) (fd : ℕ) (errMask : Bool)
      (rest : List (ℕ × Bool)) (n : ℕ) (net : Net) (pool : Pool) (hmain : s.mainFree)
      (hbatch : s.batch = (fd, errMask) :: rest) (hfd : fd ≠ s.net.tcpFd)
      (hrecv : RecvOk s.net fd recv) (hmap : s.net.eplMap fd ≠ EPL_MAP_TO_NOP)
      (heff : ClientEffect s.net fd (s.net.eplMap fd - EPL_MAP_SHIFT) errMask recv (some n) net)
      (hpool : poolStep s.pool
        (.submitEvent n (net.chans (s.net.eplMap fd - EPL_MAP_SHIFT)).pkt alloc) = some pool)
      (hpop : pool.main.popped ≠ none) :
      ServerEffect s (.clientEvent recv alloc)
        { s with
          net := net, pool := pool, batch := rest
          pending := some (fd, s.net.eplMap fd - EPL_MAP_SHIFT) }
  | submitted (create fd j : ℕ) (pool : Pool) (hpend : s.pending = some (fd, j))
      (hpool : poolStep s.pool (.submitToThread create) = some pool) :
      ServerEffect s (.pool (.submitToThread create))
        { s with pool := pool, pending := none, net := s.net.outClose fd j }
  | other (act : PoolAct) (pool : Pool) (hsubmit : ∀ n b alloc, act ≠ .submitEvent n b alloc)
      (hstore : ∀ create, act ≠ .submitToThread create) (hpool : poolStep s.pool act = some pool) :
      ServerEffect s (.pool act) { s with pool := pool }

section

variable {s s' : Server}

lemma afterTcpEvent_effect {env : AcceptEnv} {errMask : Bool} {rest : List (ℕ × Bool)} {ret : ℤ}
    {net : Net} (hmain : s.mainFree) (hbatch : s.batch = (s.net.tcpFd, errMask) :: rest)
    (hacc : AcceptOk s.net env) (heff : AcceptEffect s.net errMask env ret net) :
    ServerEffect s (.tcpEvent env) (s.afterTcpEvent rest ret net) := by
  unfold Server.afterTcpEvent
  split
  · exact .tcp env errMask rest rest ret net s.pool.stopEl hmain hbatch hacc heff (Or.inl rfl) (Or.inl rfl)
  · split
    · exact .tcp env errMask rest [] ret net s.pool.stopEl hmain hbatch hacc heff (Or.inr rfl) (Or.inl rfl)
    · exact .tcp env errMask rest [] ret net true hmain hbatch hacc heff (Or.inr rfl) (Or.inr rfl)

lemma handleClientEvent_effect {recv : Except ℤ (List UInt8)} {fd : ℕ} {errMask : Bool}
    {rest : List (ℕ × Bool)} (alloc : Option (ℕ → UInt8)) (hab : s.pool.aborted = false)
    (hmain : s.mainFree) (hbatch : s.batch = (fd, errMask) :: rest) (hfd : fd ≠ s.net.tcpFd)
    (hrecv : RecvOk s.net fd recv) :
    ServerEffect s (.clientEvent recv alloc) (handleClientEvent s fd errMask recv alloc rest) := by
  unfold handleClientEvent
  by_cases hmap : s.net.eplMap fd = EPL_MAP_TO_NOP
  · simp only [if_pos hmap]
    exact .panic recv alloc fd errMask rest hbatch hfd hmap
  · simp only [if_neg hmap]
    have heff := handleClientEvent2_effect s.net fd (s.net.eplMap fd - EPL_MAP_SHIFT) errMask recv
    have hidle := idle_of_popped hmain.2
    cases hout : handleClientEvent2 s.net fd (s.net.eplMap fd - EPL_MAP_SHIFT) errMask recv with
    | mk sub net =>
      rw [hout] at heff
      cases sub with
      | none => exact .client recv alloc fd errMask rest net hmain hbatch hfd hrecv hmap heff
      | some n =>
        simp only
        cases hsub : submitEvent s.pool n (net.chans (s.net.eplMap fd - EPL_MAP_SHIFT)).pkt alloc with
        | mk res pool =>
          have hpool : poolStep s.pool
              (.submitEvent n (net.chans (s.net.eplMap fd - EPL_MAP_SHIFT)).pkt alloc) = some pool := by
            simp [poolStep, hab, hidle, hsub]
          cases res with
          | some ret =>
            obtain ⟨hret, hkeep⟩ := submitEvent_ret hsub
            simp only [afterSubmit_of_nonpos net fd _ hret]
            exact .enqueue recv alloc fd errMask rest n net pool hmain hbatch hfd hrecv hmap heff hpool
              (hkeep.trans hidle)
          | none =>
            exact .store recv alloc fd errMask rest n net pool hmain hbatch hfd hrecv hmap heff hpool
              (submitEvent_popped hsub)

lemma poolPart_effect {act : PoolAct} (hab : s.pool.aborted = false) (h : poolPart s act = some s') :
    ServerEffect s (.pool act) s' := by
  cases act with
  | submitEvent n b alloc => cases h
  | submitToThread create =>
    simp only [poolPart] at h
    split at h
    · rename_i fd j i c b t hpend hmain
      split at h
      · rename_i hfree
        cases h
        have hpool : poolStep s.pool (.submitToThread create) =
            some (submitToThread s.pool i c b t create).2 := by
          simp [poolStep, hab, hmain, hfree]
        rw [afterSubmit_of_nonpos _ _ _ (submitToThread_ret s.pool i c b t create)]
        exact .submitted create fd j _ hpend hpool
      · cases h
    · cases h
  | dispatchPop =>
    simp only [poolPart] at h
    split at h
    · obtain ⟨pool, hpool, rfl⟩ := Option.map_eq_some_iff.mp h
      exact .other _ pool (by simp) (by simp) hpool
    · cases h
  | _ =>
    obtain ⟨pool, hpool, rfl⟩ := Option.map_eq_some_iff.mp h
    exact .other _ pool (by simp) (by simp) hpool

theorem serverStep_effect {act : ServerAct} (hok : s.net.chanStk.Ok)
    (hsub : ∀ fd ∈ s.net.eplSet, fd ∈ s.net.openFds) (h : serverStep s act = some s') :
    ServerEffect s act s' := by
  unfold serverStep at h
  split at h
  · cases h
  · rename_i hlive
    have hab : s.pool.aborted = false := by
      rw [not_or, Bool.not_eq_true, Bool.not_eq_true] at hlive
      exact hlive.2
    cases act with
    | epollWait events =>
      simp only at h
      split at h
      · rename_i hg
        cases h
        exact .wait events hg.1.1 hg.1.2.1 hg.2
      · cases h
    | tcpEvent env =>
      simp only at h
      split at h
      · rename_i fd errMask rest hbatch
        split at h
        · rename_i hg
          cases h
          obtain ⟨hmain, rfl, hacc⟩ := hg
          exact afterTcpEvent_effect hmain hbatch hacc (handleTcpEvent_effect errMask hok hacc.new hsub)
        · cases h
      · cases h
    | clientEvent recv alloc =>
      simp only at h
      split at h
      · rename_i fd errMask rest hbatch
        split at h
        · rename_i hg
          cases h
          exact handleClientEvent_effect alloc hab hg.1 hbatch hg.2.1 hg.2.2
        · cases h
      · cases h
    | pool act => exact poolPart_effect hab h

end

end GNUWeebBot.Proofs
