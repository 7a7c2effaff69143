import Mathlib.Data.Fintype.EquivFin
import Mathlib.Data.List.Perm.Basic
import GNUWeebBot.Model.Lifecycle
import GNUWeebBot.Proofs.ChannelTable

/-!
# Connections and their descriptors

What a step of the server does to the connections, and which descriptors are open: in every reachable
state the listening socket and one for each online channel, so that `close_fds` closes everything once.
-/

namespace GNUWeebBot.Proofs
open Transition

/-- The descriptor of a channel and when it was accepted. -/
def connection (chan : Chan) : Option (ℤ × ℤ) :=
  if chan.isOnline then some (chan.chanFd, chan.acceptedAt) else none

lemma connection_eq_some {chan : Chan} {fd tv : ℤ} :
    connection chan = some (fd, tv) ↔ chan.isOnline = true ∧ chan.chanFd = fd ∧ chan.acceptedAt = tv := by
  unfold connection
  by_cases h : chan.isOnline = true
  · rw [if_pos h, Option.some_inj, Prod.mk.injEq]
    exact (and_iff_right h).symm
  · rw [if_neg h]
    exact ⟨fun he => (by cases he), fun he => absurd he.1 h⟩

lemma connection_of_offline {chan : Chan} (h : chan.isOnline = false) : connection chan = none := by
  unfold connection
  rw [h]
  rfl

/-- What becomes of the connections and of the open descriptors in one step. -/
inductive ConnChange (act : ServerAct) (net net' : Net) : Prop
  | keep (hconn : ∀ i, connection (net'.chans i) = connection (net.chans i))
      (hopen : net'.openFds = net.openFds)
  | opened (env : AcceptEnv) (fd i : ℕ) (tv : ℤ) (hact : act = .tcpEvent env) (htv : env.gettimeofday = .ok tv)
      (hnew : fd ∉ net.openFds) (hoff : connection (net.chans i) = none)
      (hconn : ∀ j, connection (net'.chans j) = if j = i then some ((fd : ℤ), tv) else connection (net.chans j))
      (hopen : net'.openFds = fd :: net.openFds)
  | closed (fd i : ℕ) (tv : ℤ) (hwas : connection (net.chans i) = some ((fd : ℤ), tv))
      (hconn : ∀ j, connection (net'.chans j) = if j = i then none else connection (net.chans j))
      (hopen : net'.openFds = net.openFds.filter (fun k => k != fd))

section

variable {net net' : Net}

lemma connection_setChan {i : ℕ} {chan : Chan} (h : connection chan = connection (net.chans i)) (j : ℕ) :
    connection ((net.setChan i chan).chans j) = connection (net.chans j) := by
  by_cases hj : j = i
  · subst hj
    rw [← h]
    exact congrArg connection (Function.update_self ..)
  · exact congrArg connection (Function.update_of_ne hj ..)

lemma connChange_outClose (act : ServerAct) {fd i : ℕ} {chan : Chan} (h : NetInv net)
    (hmap : net.eplMap fd = i + EPL_MAP_SHIFT) (hchan : connection chan = connection (net.chans i)) :
    ConnChange act net ((net.setChan i chan).outClose fd i) := by
  obtain ⟨hon, hfd, -⟩ := h.channel_of_map hmap
  apply ConnChange.closed fd i (net.chans i).acceptedAt (connection_eq_some.mpr ⟨hon, hfd, rfl⟩)
  · intro j
    by_cases hj : j = i
    · subst hj
      rw [if_pos rfl]
      exact connection_of_offline (by simp [Net.outClose, Net.close, Net.setChan, resetChan])
    · rw [if_neg hj, ← connection_setChan hchan j]
      exact congrArg connection (Function.update_of_ne hj ..)
  · rfl

lemma connChange_outClose_self (act : ServerAct) {fd i : ℕ} (h : NetInv net)
    (hmap : net.eplMap fd = i + EPL_MAP_SHIFT) : ConnChange act net (net.outClose fd i) := by
  have hself : net.setChan i (net.chans i) = net := by
    unfold Net.setChan
    rw [Function.update_eq_self]
  have hc : ConnChange act net ((net.setChan i (net.chans i)).outClose fd i) := connChange_outClose act h hmap rfl
  rwa [hself] at hc

/-- `handle_client_event2` closes the connection of its event, or keeps it. -/
lemma connChange_client (act : ServerAct) {fd i : ℕ} {errMask : Bool} {recv : Except ℤ (List UInt8)}
    {sub : Option ℕ} (h : NetInv net) (hmap : net.eplMap fd = i + EPL_MAP_SHIFT)
    (heff : ClientEffect net fd i errMask recv sub net') : ConnChange act net net' := by
  cases heff with
  | again herr => exact .keep (fun _ => rfl) rfl
  | hangup recv hout => exact connChange_outClose_self act h hmap
  | more bytes herr hne hwait => exact .keep (connection_setChan rfl) rfl
  | reject bytes herr hne hrej => exact connChange_outClose act h hmap rfl
  | complete bytes herr hne hcomp =>
    exact .keep (connection_setChan rfl) rfl

/-- The time that `run_acceptor` stores is the one it read. -/
lemma runAcceptor_time (net : Net) (env : AcceptEnv) (i : ℕ) :
    (runAcceptor net env).2.chans i = net.chans i ∨
      env.gettimeofday = .ok ((runAcceptor net env).2.chans i).acceptedAt := by
  unfold runAcceptor
  split
  · exact Or.inl rfl
  · simp only
    split
    · exact Or.inl rfl
    · split
      · exact Or.inl rfl
      · split
        · exact Or.inl rfl
        · split
          · exact Or.inl rfl
          · split
            · exact Or.inl rfl
            · rename_i tvSec htv
              split
              · exact Or.inl rfl
              · by_cases hi : i = (tssPop net.chanStk).1.toNat
                · right
                  simp only [htv, Net.setChan, hi, Function.update_self]
                · left
                  simp only [Net.setChan, Function.update_of_ne hi]

end

section

variable {s s' : Server}

lemma serverStep_time {env : AcceptEnv} (hstep : serverStep s (.tcpEvent env) = some s') (i : ℕ) :
    s'.net.chans i = s.net.chans i ∨ env.gettimeofday = .ok (s'.net.chans i).acceptedAt := by
  unfold serverStep at hstep
  split at hstep
  · cases hstep
  · simp only at hstep
    split at hstep
    · rename_i fd errMask rest hbatch
      split at hstep
      · cases hstep
        have hnet : ∀ ret net, (s.afterTcpEvent rest ret net).net = net := by
          intro ret net
          unfold Server.afterTcpEvent
          split
          · rfl
          · split <;> rfl
        rw [hnet]
        cases errMask with
        | true => exact Or.inl rfl
        | false => exact runAcceptor_time s.net env i
      · cases hstep
    · cases hstep

theorem connChange_of_step (h : ServerInv s) {act : ServerAct} (hstep : serverStep s act = some s') :
    ConnChange act s.net s'.net := by
  cases h.toEffect hstep with
  | wait events hmain hbatch hok => exact .keep (fun _ => rfl) rfl
  | tcp env errMask rest batch ret net stop hmain hbatch hacc heff hrest hstop =>
    cases heff with
    | refuse ret hkeep => exact .keep (fun _ => rfl) rfl
    | leak ret i stk hleak hstk hok hcap => exact .keep (fun _ => rfl) rfl
    | accept fd i stk srcIp tvSec hkeep hfd hstk hok hcap hi =>
      have hoff := (h.net.stkOffline i (hstk ▸ List.mem_cons_self)).2
      have hself : (acceptedNet s.net stk fd i (acceptedChan (s.net.chans i) fd i env srcIp tvSec)).chans i =
          acceptedChan (s.net.chans i) fd i env srcIp tvSec := Function.update_self ..
      have htv : env.gettimeofday = .ok tvSec := by
        have htime := serverStep_time hstep i
        simp only [hself] at htime
        refine htime.resolve_left (fun he => ?_)
        rw [← he] at hoff
        cases hoff
      refine .opened env fd i tvSec rfl htv (hacc fd (by simp [hfd, Except.toOption])).1 (connection_of_offline hoff)
        (fun j => ?_) rfl
      by_cases hj : j = i
      · subst hj
        rw [if_pos rfl]
        exact connection_eq_some.mpr
          ⟨congrArg Chan.isOnline hself, congrArg Chan.chanFd hself, congrArg Chan.acceptedAt hself⟩
      · rw [if_neg hj]
        exact congrArg connection (Function.update_of_ne hj ..)
  | panic recv alloc fd errMask rest hbatch hfd hmap => exact .keep (fun _ => rfl) rfl
  | client recv alloc fd errMask rest net hmain hbatch hfd hrecv hmap heff =>
    exact connChange_client _ h.net (NetInv.map_index hmap) heff
  | enqueue recv alloc fd errMask rest n net pool hmain hbatch hfd hrecv hmap heff hpool hidle =>
    cases heff
    exact connChange_outClose _ h.net (NetInv.map_index hmap) rfl
  | store recv alloc fd errMask rest n net pool hmain hbatch hfd hrecv hmap heff hpool hpop =>
    exact connChange_client _ h.net (NetInv.map_index hmap) heff
  | submitted create fd j pool hpend hpool => exact connChange_outClose_self _ h.net (h.pending fd j hpend).1
  | other act pool hsubmit hstore hpool => exact .keep (fun _ => rfl) rfl

end

/-! ### Who owns the open descriptors -/

structure FdsInv (net : Net) : Prop where
  nodup : net.openFds.Nodup
  owned : ∀ fd ∈ net.openFds, fd = net.tcpFd ∨ ∃ i tv, connection (net.chans i) = some ((fd : ℤ), tv)

namespace FdsInv

variable {net net' : Net}

lemma init (threadC tcpFd : ℕ) (junk : ℕ → ℕ → UInt8) : FdsInv (initNet threadC tcpFd junk) where
  nodup := List.nodup_singleton tcpFd
  owned := fun _ hfd => Or.inl (List.mem_singleton.mp hfd)

lemma change (h : FdsInv net) {act : ServerAct} (htcp : net'.tcpFd = net.tcpFd) (hc : ConnChange act net net') :
    FdsInv net' := by
  cases hc with
  | keep hconn hopen =>
    constructor
    · rw [hopen]
      exact h.nodup
    · intro fd hfd
      rw [hopen] at hfd
      apply (h.owned fd hfd).imp (fun he => he.trans htcp.symm)
      rintro ⟨i, tv, he⟩
      exact ⟨i, tv, (hconn i).trans he⟩
  | opened env fd i tv hact htv hnew hoff hconn hopen =>
    constructor
    · rw [hopen]
      exact List.nodup_cons.mpr ⟨hnew, h.nodup⟩
    · intro k hk
      rw [hopen] at hk
      rcases List.mem_cons.mp hk with rfl | hold
      · exact Or.inr ⟨i, tv, (hconn i).trans (if_pos rfl)⟩
      · apply (h.owned k hold).imp (fun he => he.trans htcp.symm)
        rintro ⟨j, u, he⟩
        have hji : j ≠ i := by
          rintro rfl
          rw [hoff] at he
          cases he
        exact ⟨j, u, (hconn j).trans ((if_neg hji).trans he)⟩
  | closed fd i tv hwas hconn hopen =>
    constructor
    · rw [hopen]
      exact h.nodup.filter _
    · intro k hk
      rw [hopen, List.mem_filter, bne_iff_ne] at hk
      apply (h.owned k hk.1).imp (fun he => he.trans htcp.symm)
      rintro ⟨j, u, he⟩
      have hji : j ≠ i := by
        rintro rfl
        rw [hwas, Option.some_inj, Prod.mk.injEq, Int.ofNat_inj] at he
        exact hk.2 he.1.symm
      exact ⟨j, u, (hconn j).trans ((if_neg hji).trans he)⟩

lemma mem_openFds (h : FdsInv net) (hn : NetInv net) (fd : ℕ) :
    fd ∈ net.openFds ↔
      fd = net.tcpFd ∨ ∃ i < net.threadC, (net.chans i).isOnline = true ∧ (net.chans i).chanFd = fd := by
  constructor
  · intro hfd
    apply (h.owned fd hfd).imp_right
    rintro ⟨i, tv, he⟩
    obtain ⟨hon, hchan, -⟩ := connection_eq_some.mp he
    exact ⟨i, (hn.online i hon).1, hon, hchan⟩
  · rintro (rfl | ⟨i, -, hon, hchan⟩)
    · exact hn.tcpOpen
    · apply hn.setOpen fd (hn.mappedSet fd ?_)
      rw [hn.index_of_fd hon hchan, EPL_MAP_SHIFT, EPL_MAP_TO_NOP]
      omega

end FdsInv

lemma mem_onlineSlots {threadC i : ℕ} {chans : ℕ → Chan} :
    i ∈ onlineSlots threadC chans ↔ i < threadC ∧ (chans i).isOnline = true := by
  rw [onlineSlots, List.mem_filter, List.mem_range]

lemma nodup_onlineSlots (threadC : ℕ) (chans : ℕ → Chan) : (onlineSlots threadC chans).Nodup :=
  List.nodup_range.filter _

/-- Two online channels never have the same descriptor. -/
lemma nodup_fds {net : Net} (hn : NetInv net) :
    ((onlineSlots net.threadC net.chans).map (fun i => (net.chans i).chanFd)).Nodup := by
  apply (nodup_onlineSlots net.threadC net.chans).map_on
  intro i hi j hj hij
  obtain ⟨-, fd, hfd, hmapi⟩ := hn.online i (mem_onlineSlots.mp hi).2
  have hmapj := hn.index_of_fd (mem_onlineSlots.mp hj).2 (hij.symm.trans hfd)
  rw [hmapi] at hmapj
  exact Nat.add_right_cancel hmapj

lemma closeFds_perm {net : Net} (h : FdsInv net) (hn : NetInv net) {eplFd : ℕ} (hepl : eplFd ∉ net.openFds) :
    (closeFds net.tcpFd eplFd net.threadC net.chans).1.Perm ((eplFd :: net.openFds).map (fun fd : ℕ => (fd : ℤ))) := by
  have hneg : ∀ fd : ℕ, (fd : ℤ) ≠ -1 := fun fd => by omega
  have hmem : ∀ i ∈ onlineSlots net.threadC net.chans, ∃ fd ∈ net.openFds,
      (net.chans i).chanFd = fd ∧ fd ≠ net.tcpFd := by
    intro i hi
    obtain ⟨hlt, hon⟩ := mem_onlineSlots.mp hi
    obtain ⟨-, fd, hfd, hmap⟩ := hn.online i hon
    refine ⟨fd, (h.mem_openFds hn fd).mpr (Or.inr ⟨i, hlt, hon, hfd⟩), hfd, ?_⟩
    rintro rfl
    rw [hn.tcpNop, EPL_MAP_TO_NOP, EPL_MAP_SHIFT] at hmap
    omega
  have hopen : ((net.tcpFd : ℤ) :: (onlineSlots net.threadC net.chans).map (fun i => (net.chans i).chanFd)).Perm
      (net.openFds.map (fun fd : ℕ => (fd : ℤ))) := by
    refine (List.perm_ext_iff_of_nodup ?_ ?_).mpr (fun k => ?_)
    · rw [List.nodup_cons]
      refine ⟨fun hin => ?_, nodup_fds hn⟩
      obtain ⟨i, hi, he⟩ := List.mem_map.mp hin
      obtain ⟨fd, -, hfd, hne⟩ := hmem i hi
      exact hne (Int.ofNat_inj.mp (hfd.symm.trans he))
    · exact h.nodup.map (fun _ _ he => Int.ofNat_inj.mp he)
    · rw [List.mem_cons, List.mem_map, List.mem_map]
      constructor
      · rintro (rfl | ⟨i, hi, rfl⟩)
        · exact ⟨net.tcpFd, hn.tcpOpen, rfl⟩
        · obtain ⟨fd, hfd, he, -⟩ := hmem i hi
          exact ⟨fd, hfd, he.symm⟩
      · rintro ⟨fd, hfd, rfl⟩
        apply ((h.mem_openFds hn fd).mp hfd).imp (congrArg _)
        rintro ⟨i, hlt, hon, he⟩
        exact ⟨i, mem_onlineSlots.mpr ⟨hlt, hon⟩, he⟩
  rw [closeFds, if_pos (hneg _), if_pos (hneg _), List.map_cons]
  exact (List.Perm.swap ..).trans (hopen.cons _)

section

variable {threadC tcpFd : ℕ} {chanJunk threadJunk : ℕ → ℕ → UInt8} {s : Server}

lemma fdsInv_of_reachable (hc : threadC ≤ 0xffff)
    (hreach : Reachable serverStep (initServer threadC tcpFd chanJunk threadJunk) s) : FdsInv s.net := by
  refine (reachable_preserves (fun s => ServerInv s ∧ FdsInv s.net) ?_ ?_ hreach).2
  · rintro q act q' ⟨hq, hf⟩ hstep
    have he := hq.toEffect hstep
    exact ⟨hq.effect he, hf.change (serverEffect_config he).2 (connChange_of_step hq hstep)⟩
  · exact ⟨ServerInv.init tcpFd chanJunk threadJunk hc, FdsInv.init threadC tcpFd chanJunk⟩

end

/-- In every reachable state the open descriptors are the listening socket and one for each online channel,
and `close_fds` then closes each of them and the epoll descriptor exactly once and leaves no channel online. -/
theorem descriptors_are_owned (threadC tcpFd : ℕ) (chanJunk threadJunk : ℕ → ℕ → UInt8) (hc : threadC ≤ 0xffff)
    (s : Server) (hreach : Reachable serverStep (initServer threadC tcpFd chanJunk threadJunk) s) :
    s.net.openFds.Nodup ∧ s.net.openFds.length ≤ threadC + 1 ∧
    (∀ fd, fd ∈ s.net.openFds ↔
      fd = tcpFd ∨ ∃ i < threadC, (s.net.chans i).isOnline = true ∧ (s.net.chans i).chanFd = fd) ∧
    (∀ eplFd ∉ s.net.openFds, (closeFds tcpFd eplFd threadC s.net.chans).1.Nodup ∧
      (closeFds tcpFd eplFd threadC s.net.chans).1.Perm ((eplFd :: s.net.openFds).map (fun fd : ℕ => (fd : ℤ)))) ∧
    ∀ eplFd : ℕ, ∀ i < threadC, ((closeFds tcpFd eplFd threadC s.net.chans).2 i).isOnline = false := by
  obtain ⟨h, rfl, rfl⟩ := serverInv_of_reachable hc hreach
  have hf := fdsInv_of_reachable hc hreach
  refine ⟨hf.nodup, ?_, hf.mem_openFds h.net, fun eplFd hepl => ?_, fun eplFd i hi => ?_⟩
  · obtain ⟨eplFd, hepl⟩ := Infinite.exists_notMem_finset s.net.openFds.toFinset
    rw [List.mem_toFinset] at hepl
    have hlen := (closeFds_perm hf h.net hepl).length_eq
    have hslots := (List.length_filter_le (fun i => (s.net.chans i).isOnline) (List.range s.net.threadC))
    have hneg : ∀ fd : ℕ, (fd : ℤ) ≠ -1 := fun fd => by omega
    rw [List.length_range] at hslots
    simp only [closeFds, if_pos (hneg _), List.length_append, List.length_map, List.length_cons, List.length_nil] at hlen
    unfold onlineSlots at hlen
    omega
  · have hperm := closeFds_perm hf h.net hepl
    refine ⟨hperm.nodup_iff.mpr ?_, hperm⟩
    exact (List.nodup_cons.mpr ⟨hepl, hf.nodup⟩).map (fun _ _ he => Int.ofNat_inj.mp he)
  · unfold closeFds
    by_cases hon : (s.net.chans i).isOnline = true
    · simp only [if_pos (And.intro hi hon), resetChan]
    · simp only [if_neg (fun hc : i < s.net.threadC ∧ (s.net.chans i).isOnline = true => hon hc.2)]
      exact Bool.eq_false_iff.mpr hon

/-- Two clients are connected. -/
def twoClientsRun : List ServerAct :=
  [.epollWait [(3, false)], .tcpEvent (acceptEnv 5), .epollWait [(3, false)], .tcpEvent (acceptEnv 6)]

theorem descriptors_are_owned_twoClientsRun :
    ∃ s, run serverStep (initServer 2 3 (fun _ _ => 0) (fun _ _ => 0)) twoClientsRun = some s ∧
      (s.net.chans 0).isOnline = true ∧ (s.net.chans 1).isOnline = true ∧
      (closeFds 3 4 2 s.net.chans).1.Nodup ∧ (closeFds 3 4 2 s.net.chans).1.Perm [4, 6, 5, 3] := by
  obtain ⟨s, hrun, hon0, hon1, hopen⟩ :
      ∃ s, run serverStep (initServer 2 3 (fun _ _ => 0) (fun _ _ => 0)) twoClientsRun = some s ∧
        (s.net.chans 0).isOnline = true ∧ (s.net.chans 1).isOnline = true ∧ s.net.openFds = [6, 5, 3] :=
    ⟨_, rfl, rfl, rfl, rfl⟩
  have h := descriptors_are_owned 2 3 (fun _ _ => 0) (fun _ _ => 0) (by decide) s ⟨twoClientsRun, hrun⟩
  have hclose := h.2.2.2.1 4 (by rw [hopen]; decide)
  rw [hopen] at hclose
  exact ⟨s, hrun, hon0, hon1, hclose⟩

end GNUWeebBot.Proofs
