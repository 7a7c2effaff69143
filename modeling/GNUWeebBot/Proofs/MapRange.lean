import GNUWeebBot.Model.Descriptors
import GNUWeebBot.Proofs.ChannelTable

/-!
# The range of the descriptor map

`run_acceptor` compares the value it stores in `epl_map` with the size of the map, and not
the descriptor it stores it at. So the accesses are in range as long as `accept` returns
small descriptors, and the last slot of a full table is refused for its number.
-/

namespace GNUWeebBot.Proofs
open Transition

/-- A connection on `fd` for which every system call succeeds, with the slot `i` on top. -/
structure Connects (net : Net) (errMask : Bool) (env : AcceptEnv) (fd i : ℕ) : Prop where
  noError : errMask = false
  accepted : env.accept = .ok fd
  addrLen : env.addrLen ≤ sizeofSockaddrIn
  address : env.inetNtop.isSome = true
  slot : net.chanStk.toList.head? = some i
  time : env.gettimeofday.isOk = true
  added : env.epollAdd = none

/-- The step reads and writes `epl_map` in its range, and a connection gets its slot
whatever its number is. -/
structure MapStepSafe (s : Server) (act : ServerAct) : Prop where
  inRange : ∀ k ∈ mapIndices s act, k < EPL_MAP_SIZE
  accepts : ∀ env errMask rest fd i, act = .tcpEvent env → s.batch = (s.net.tcpFd, errMask) :: rest →
    Connects s.net errMask env fd i → (handleTcpEvent s.net errMask env).1 = 0

/-- A connection has a descriptor below the size of the map, and not the last slot of it. -/
def SmallDescriptor (s : Server) : ServerAct → Prop
  | .tcpEvent env => ∀ errMask rest fd i, s.batch = (s.net.tcpFd, errMask) :: rest →
      Connects s.net errMask env fd i → fd < EPL_MAP_SIZE ∧ i + EPL_MAP_SHIFT < EPL_MAP_SIZE
  | _ => True

/-! ### Accepting -/

/-- `run_acceptor` writes `epl_map` exactly for a connection whose slot it does not refuse. -/
lemma runAcceptor_map {net : Net} (hok : net.chanStk.Ok) (env : AcceptEnv) :
    (∃ fd i, Connects net false env fd i ∧ i + EPL_MAP_SHIFT < EPL_MAP_SIZE ∧ acceptIndices net env = [fd] ∧
      (runAcceptor net env).1 = 0 ∧
      (runAcceptor net env).2.eplMap = Function.update net.eplMap fd ((i + EPL_MAP_SHIFT) % 2 ^ 16)) ∨
    ((∀ fd i, Connects net false env fd i →
        EPL_MAP_SIZE ≤ i + EPL_MAP_SHIFT ∧ (runAcceptor net env).1 = -EAGAIN) ∧
      acceptIndices net env = [] ∧ (runAcceptor net env).2.eplMap = net.eplMap) := by
  unfold runAcceptor acceptIndices
  cases hfd : env.accept with
  | error err => exact Or.inr ⟨fun fd i h => absurd h.accepted (by simp [hfd]), rfl, rfl⟩
  | ok fd =>
    by_cases hlen : env.addrLen > sizeofSockaddrIn
    · refine Or.inr ⟨fun fd i h => absurd h.addrLen (by omega), ?_, ?_⟩
      · simp only [if_pos (Or.inl hlen : env.addrLen > sizeofSockaddrIn ∨ env.inetNtop.isNone = true)]
      · simp only [if_pos hlen, Net.close]
    · simp only [if_neg hlen]
      cases hip : env.inetNtop with
      | none => exact Or.inr ⟨fun fd i h => absurd h.address (by simp [hip]), by simp, rfl⟩
      | some srcIp =>
        have hcheck : ¬(env.addrLen > sizeofSockaddrIn ∨ (some srcIp).isNone = true) := by simp; omega
        simp only [if_neg hcheck]
        rcases Tstack.tssPop_cases hok with ⟨hl, hp⟩ | ⟨i, stk, hl, hp, -, -⟩
        · simp only [hp, if_true]
          exact Or.inr ⟨fun fd i h => absurd h.slot (by simp [hl]), trivial, rfl⟩
        · have hne : (i : ℤ) ≠ -1 := by omega
          simp only [hp, if_neg hne, Int.toNat_natCast]
          have htop : ∀ k, net.chanStk.toList.head? = some k → i = k := by simp [hl]
          by_cases hbig : i + EPL_MAP_SHIFT ≥ EPL_MAP_SIZE
          · simp only [if_pos hbig]
            refine Or.inr ⟨fun fd k h => ⟨?_, trivial⟩, trivial, rfl⟩
            exact htop k h.slot ▸ hbig
          · simp only [if_neg hbig]
            cases htv : env.gettimeofday with
            | error err =>
              exact Or.inr ⟨fun fd k h => absurd h.time (by simp [htv, Except.isOk, Except.toBool]),
                by simp [Except.isOk, Except.toBool], rfl⟩
            | ok tvSec =>
              cases hadd : env.epollAdd with
              | some err => exact Or.inr ⟨fun fd k h => absurd h.added (by simp [hadd]), by simp, rfl⟩
              | none =>
                refine Or.inl ⟨fd, i, ⟨rfl, hfd, by omega, by simp [hip], by simp [hl], ?_, hadd⟩, by omega, ?_, rfl, rfl⟩
                · simp [htv, Except.isOk, Except.toBool]
                · simp [Except.isOk, Except.toBool]

/-- `run_acceptor` is in range and refuses no slot exactly if the descriptor and the slot fit. -/
lemma acceptor_safe_iff {net : Net} (hok : net.chanStk.Ok) (env : AcceptEnv) :
    ((∀ k ∈ acceptIndices net env, k < EPL_MAP_SIZE) ∧
      ∀ fd i, Connects net false env fd i → (runAcceptor net env).1 = 0) ↔
    ∀ fd i, Connects net false env fd i → fd < EPL_MAP_SIZE ∧ i + EPL_MAP_SHIFT < EPL_MAP_SIZE := by
  rcases runAcceptor_map hok env with ⟨fd, i, hconn, hi, hidx, hret, -⟩ | ⟨hrefuse, hidx, -⟩
  · have hsame : ∀ fd' i', Connects net false env fd' i' → fd' = fd ∧ i' = i := by
      intro fd' i' h
      have hfd : fd' = fd := Except.ok.inj (h.accepted.symm.trans hconn.accepted)
      have hslot : i' = i := Option.some_inj.mp (h.slot.symm.trans hconn.slot)
      exact ⟨hfd, hslot⟩
    simp only [hidx, List.mem_singleton, forall_eq, hret, implies_true, and_true]
    constructor
    · intro hlt fd' i' h
      obtain ⟨rfl, rfl⟩ := hsame fd' i' h
      exact ⟨hlt, hi⟩
    · exact fun h => (h fd i hconn).1
  · simp only [hidx, List.not_mem_nil, false_implies, implies_true, true_and]
    constructor
    · intro hzero fd i h
      have hret := hzero fd i h
      rw [(hrefuse fd i h).2, EAGAIN] at hret
      exact absurd hret (by decide)
    · intro hsmall fd i h
      have hbig := (hrefuse fd i h).1
      have hlt := (hsmall fd i h).2
      omega

/-- The elements of the map that `run_acceptor` sets. -/
lemma acceptor_mapped {net : Net} (hok : net.chanStk.Ok) (env : AcceptEnv)
    (hsmall : ∀ fd i, Connects net false env fd i → fd < EPL_MAP_SIZE ∧ i + EPL_MAP_SHIFT < EPL_MAP_SIZE)
    {k : ℕ} (hk : (runAcceptor net env).2.eplMap k ≠ EPL_MAP_TO_NOP) :
    net.eplMap k ≠ EPL_MAP_TO_NOP ∨ k < EPL_MAP_SIZE := by
  rcases runAcceptor_map hok env with ⟨fd, i, hconn, -, -, -, hmap⟩ | ⟨-, -, hmap⟩
  · rw [hmap] at hk
    by_cases hkfd : k = fd
    · exact Or.inr (hkfd ▸ (hsmall fd i hconn).1)
    · rw [Function.update_of_ne hkfd] at hk
      exact Or.inl hk
  · rw [hmap] at hk
    exact Or.inl hk

/-- Below 65535 channels every slot is accepted. -/
lemma slot_fits {net : Net} (h : NetInv net) (hc : net.threadC < EPL_MAP_SIZE) {i : ℕ}
    (hi : i ∈ net.chanStk.toList) : i + EPL_MAP_SHIFT < EPL_MAP_SIZE := by
  have hlt := (h.stkOffline i hi).1
  rw [EPL_MAP_SHIFT]
  omega

/-! ### All steps -/

/-- `ServerInv`, with channels on small descriptors only. -/
structure MapInv (s : Server) : Prop extends ServerInv s where
  small : ∀ fd, s.net.eplMap fd ≠ EPL_MAP_TO_NOP → fd < EPL_MAP_SIZE

lemma eplMap_outClose {net : Net} {fd i k : ℕ} (h : (net.outClose fd i).eplMap k ≠ EPL_MAP_TO_NOP) :
    net.eplMap k ≠ EPL_MAP_TO_NOP := by
  simp only [Net.outClose, Net.close, Net.setChan] at h
  by_cases hk : k = fd
  · subst hk
    exact absurd (Function.update_self ..) h
  · rwa [Function.update_of_ne hk] at h

lemma eplMap_clientEffect {net : Net} {fd i k : ℕ} {errMask : Bool} {recv : Except ℤ (List UInt8)}
    {sub : Option ℕ} {net' : Net} (heff : ClientEffect net fd i errMask recv sub net')
    (h : net'.eplMap k ≠ EPL_MAP_TO_NOP) : net.eplMap k ≠ EPL_MAP_TO_NOP := by
  cases heff with
  | again herr => exact h
  | hangup recv hout => exact eplMap_outClose h
  | more bytes herr hne hwait => exact h
  | reject bytes herr hne hrej => exact @eplMap_outClose (net.setChan i (receivedChan (net.chans i) bytes)) fd i k h
  | complete bytes herr hne hcomp => exact h

/-- Only `run_acceptor` sets an element of the map. -/
lemma eplMap_effect {s s' : Server} {act : ServerAct} (he : ServerEffect s act s')
    (hact : ∀ env, act ≠ .tcpEvent env) {k : ℕ} (hk : s'.net.eplMap k ≠ EPL_MAP_TO_NOP) :
    s.net.eplMap k ≠ EPL_MAP_TO_NOP := by
  cases he with
  | wait events hmain hbatch hok => exact hk
  | tcp env errMask rest batch ret net stop hmain hbatch hacc heff hrest hstop => exact absurd rfl (hact env)
  | panic recv alloc fd errMask rest hbatch hfd hmap => exact hk
  | client recv alloc fd errMask rest net hmain hbatch hfd hrecv hmap heff => exact eplMap_clientEffect heff hk
  | enqueue recv alloc fd errMask rest n net pool hmain hbatch hfd hrecv hmap heff hpool hidle =>
    exact eplMap_clientEffect heff (eplMap_outClose hk)
  | store recv alloc fd errMask rest n net pool hmain hbatch hfd hrecv hmap heff hpool hpop =>
    exact eplMap_clientEffect heff hk
  | submitted create fd j pool hpend hpool => exact eplMap_outClose hk
  | other act pool hsubmit hstore hpool => exact hk

lemma serverStepAnyFd_tcp {s s' : Server} {env : AcceptEnv} (hstep : serverStepAnyFd s (.tcpEvent env) = some s') :
    ∃ errMask rest, s.batch = (s.net.tcpFd, errMask) :: rest ∧ s.mainFree ∧ AcceptNew s.net env ∧
      s' = s.afterTcpEvent rest (handleTcpEvent s.net errMask env).1 (handleTcpEvent s.net errMask env).2 := by
  simp only [serverStepAnyFd] at hstep
  split at hstep
  · cases hstep
  · split at hstep
    · rename_i fd errMask rest hbatch
      split at hstep
      · rename_i hg
        obtain ⟨hmain, rfl, hacc⟩ := hg
        exact ⟨errMask, rest, hbatch, hmain, hacc, (Option.some_inj.mp hstep).symm⟩
      · cases hstep
    · cases hstep

lemma serverStepAnyFd_other {s : Server} {act : ServerAct} (hact : ∀ env, act ≠ .tcpEvent env) :
    serverStepAnyFd s act = serverStep s act := by
  cases act with
  | tcpEvent env => exact absurd rfl (hact env)
  | _ => rfl

namespace MapInv

variable {s s' : Server}

lemma step (h : MapInv s) {act : ServerAct} (hstep : serverStepAnyFd s act = some s')
    (hsmall : SmallDescriptor s act) : MapInv s' := by
  by_cases htcp : ∃ env, act = .tcpEvent env
  · obtain ⟨env, rfl⟩ := htcp
    obtain ⟨errMask, rest, hbatch, hmain, hacc, rfl⟩ := serverStepAnyFd_tcp hstep
    have heff := handleTcpEvent_effect errMask h.net.stkOk hacc h.net.setOpen
    have hnet : ∀ k, (handleTcpEvent s.net errMask env).2.eplMap k ≠ EPL_MAP_TO_NOP → k < EPL_MAP_SIZE := by
      intro k hk
      cases errMask with
      | true => exact h.small k hk
      | false => exact (acceptor_mapped h.net.stkOk env (hsmall false rest · · hbatch) hk).elim (h.small k) id
    unfold Server.afterTcpEvent
    split
    · exact ⟨h.tcp hbatch hmain hacc heff (Or.inl rfl), hnet⟩
    · split
      · exact ⟨h.tcp hbatch hmain hacc heff (Or.inr rfl), hnet⟩
      · exact ⟨h.tcp hbatch hmain hacc heff (Or.inr rfl), hnet⟩
  · have hact : ∀ env, act ≠ .tcpEvent env := fun env he => htcp ⟨env, he⟩
    rw [serverStepAnyFd_other hact] at hstep
    have he := h.toServerInv.toEffect hstep
    exact ⟨h.toServerInv.effect he, fun k hk => h.small k (eplMap_effect he hact hk)⟩

/-- The descriptors of clients that events are handled for have channels. -/
lemma indices_lt (h : MapInv s) {act : ServerAct} (he : ServerEffect s act s')
    (hact : ∀ env, act ≠ .tcpEvent env) {k : ℕ} (hk : k ∈ mapIndices s act) : k < EPL_MAP_SIZE := by
  have hhead : ∀ fd errMask rest, s.batch = (fd, errMask) :: rest → fd ≠ s.net.tcpFd →
      k ∈ (s.batch.head?.map Prod.fst).toList → k < EPL_MAP_SIZE := by
    intro fd errMask rest hbatch hfd hk
    obtain rfl : k = fd := by simpa [hbatch] using hk
    exact h.small k (h.head_mapped hbatch hfd)
  cases he with
  | wait events hmain hbatch hok => cases hk
  | tcp env errMask rest batch ret net stop hmain hbatch hacc heff hrest hstop => exact absurd rfl (hact env)
  | panic recv alloc fd errMask rest hbatch hfd hmap => exact hhead fd errMask rest hbatch hfd hk
  | client recv alloc fd errMask rest net hmain hbatch hfd hrecv hmap heff =>
    exact hhead fd errMask rest hbatch hfd hk
  | enqueue recv alloc fd errMask rest n net pool hmain hbatch hfd hrecv hmap heff hpool hidle =>
    exact hhead fd errMask rest hbatch hfd hk
  | store recv alloc fd errMask rest n net pool hmain hbatch hfd hrecv hmap heff hpool hpop =>
    exact hhead fd errMask rest hbatch hfd hk
  | submitted create fd j pool hpend hpool =>
    obtain rfl : k = fd := by simpa [mapIndices, hpend] using hk
    refine h.small k ?_
    rw [(h.pending k j hpend).1, EPL_MAP_SHIFT, EPL_MAP_TO_NOP]
    omega
  | other act pool hsubmit hstore hpool =>
    cases act with
    | submitToThread create => exact absurd rfl (hstore create)
    | _ => cases hk

/-- A step is safe exactly if the connection it accepts, if it accepts one, is small. -/
lemma safe_iff (h : MapInv s) {act : ServerAct} (hstep : serverStepAnyFd s act = some s') :
    MapStepSafe s act ↔ SmallDescriptor s act := by
  by_cases htcp : ∃ env, act = .tcpEvent env
  · obtain ⟨env, rfl⟩ := htcp
    obtain ⟨errMask, rest, hbatch, -, -, -⟩ := serverStepAnyFd_tcp hstep
    have hiff := acceptor_safe_iff h.net.stkOk env
    cases errMask with
    | true =>
      have hnone : ∀ env m r fd i, s.batch = (s.net.tcpFd, m) :: r → ¬Connects s.net m env fd i := by
        intro env m r fd i hb hconn
        rw [hbatch] at hb
        have hmask : true = m := (Prod.mk.inj (List.cons.inj hb).1).2
        exact absurd (hmask.trans hconn.noError) (by decide)
      constructor
      · exact fun _ m r fd i hb hconn => absurd hconn (hnone env m r fd i hb)
      · intro _
        refine ⟨by simp [mapIndices, hbatch], ?_⟩
        exact fun env' m r fd i _ hb hconn => absurd hconn (hnone env' m r fd i hb)
    | false =>
      constructor
      · intro hs m r fd i hb hconn
        obtain rfl := hconn.noError
        refine hiff.mp ⟨?_, fun fd i hc => hs.accepts env false rest fd i rfl hbatch hc⟩ fd i hconn
        simpa [mapIndices, hbatch] using hs.inRange
      · intro hs
        have hsafe := hiff.mpr (fun fd i => hs false rest fd i hbatch)
        refine ⟨by simpa [mapIndices, hbatch] using hsafe.1, ?_⟩
        intro env' m r fd i he _ hconn
        cases he
        obtain rfl := hconn.noError
        exact hsafe.2 fd i hconn
  · have hact : ∀ env, act ≠ .tcpEvent env := fun env he => htcp ⟨env, he⟩
    rw [serverStepAnyFd_other hact] at hstep
    have hsmall : SmallDescriptor s act := by
      cases act with
      | tcpEvent env => exact absurd rfl (hact env)
      | _ => trivial
    exact ⟨fun _ => hsmall, fun _ => ⟨fun k => h.indices_lt (h.toServerInv.toEffect hstep) hact,
      fun env m r fd i hc => absurd hc (hact env)⟩⟩

end MapInv

/-- Every access of `epl_map` is in range, and no connection is refused for the number of its
slot, exactly in the runs whose connections get a descriptor below `EPL_MAP_SIZE` and not the
last slot of the largest channel table. -/
theorem epl_map_in_range_iff (threadC tcpFd : ℕ) (chanJunk threadJunk : ℕ → ℕ → UInt8) (hc : threadC ≤ 0xffff)
    (acts : List ServerAct) (s : Server)
    (hrun : run serverStepAnyFd (initServer threadC tcpFd chanJunk threadJunk) acts = some s) :
    EachStep serverStepAnyFd MapStepSafe (initServer threadC tcpFd chanJunk threadJunk) acts ↔
      EachStep serverStepAnyFd SmallDescriptor (initServer threadC tcpFd chanJunk threadJunk) acts := by
  have hinit : MapInv (initServer threadC tcpFd chanJunk threadJunk) :=
    ⟨ServerInv.init tcpFd chanJunk threadJunk hc, fun fd hfd => absurd rfl hfd⟩
  exact eachStep_iff (fun q act q' hq hstep hsmall => hq.step hstep hsmall)
    (fun q act q' hq hstep => hq.safe_iff hstep) hinit hrun

theorem epl_map_in_range_reuseRun :
    EachStep serverStepAnyFd MapStepSafe (initServer 2 3 (fun _ _ => 0) (fun _ _ => 0)) reuseRun := by
  refine (epl_map_in_range_iff 2 3 (fun _ _ => 0) (fun _ _ => 0) (by decide) reuseRun _ rfl).mpr ?_
  refine ⟨trivial, fun q₁ h₁ => ⟨?_, fun q₂ h₂ => ⟨trivial, fun q₃ h₃ =>
    ⟨trivial, fun q₄ h₄ => ⟨?_, fun _ _ => trivial⟩⟩⟩⟩⟩
  · obtain rfl := Option.some_inj.mp h₁
    intro errMask rest fd i _ hconn
    obtain rfl : 5 = fd := Except.ok.inj hconn.accepted
    obtain rfl : 0 = i := Option.some_inj.mp hconn.slot
    decide
  · obtain rfl := Option.some_inj.mp h₁
    obtain rfl := Option.some_inj.mp h₂
    obtain rfl := Option.some_inj.mp h₃
    obtain rfl := Option.some_inj.mp h₄
    intro errMask rest fd i _ hconn
    obtain rfl : 5 = fd := Except.ok.inj hconn.accepted
    obtain rfl : 0 = i := Option.some_inj.mp hconn.slot
    decide

/-- `accept` returns the number that is the size of the map. -/
def farRun : List ServerAct := [.epollWait [(3, false)], .tcpEvent (acceptEnv EPL_MAP_SIZE)]

theorem epl_map_written_behind :
    (∃ s, run serverStepAnyFd (initServer 1 3 (fun _ _ => 0) (fun _ _ => 0)) farRun = some s) ∧
    ¬EachStep serverStepAnyFd MapStepSafe (initServer 1 3 (fun _ _ => 0) (fun _ _ => 0)) farRun := by
  refine ⟨⟨_, rfl⟩, fun h => ?_⟩
  have hsafe := (h.2 _ rfl).1.inRange EPL_MAP_SIZE (List.mem_singleton.mpr rfl)
  exact absurd hsafe (Nat.lt_irrefl EPL_MAP_SIZE)

end GNUWeebBot.Proofs
