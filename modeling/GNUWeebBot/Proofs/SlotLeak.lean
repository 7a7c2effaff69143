import GNUWeebBot.Proofs.ChannelTable

/-!
# Channel slots that leak

`run_acceptor` does not give the index it popped back when a later check or system call
fails. Along a run no slot leaks exactly when that never happens.
-/

namespace GNUWeebBot.Proofs
open Transition

structure NoSlotLeak (s : Server) : Prop where
  onStack : ∀ i < s.net.threadC, (s.net.chans i).isOnline = false → i ∈ s.net.chanStk.toList
  full : (∀ i < s.net.threadC, (s.net.chans i).isOnline = false) →
    tssCount s.net.chanStk = s.net.chanStk.capacity

/-- The step is no call of `run_acceptor` that fails after its `tss_pop`. -/
def KeepsSlot (s : Server) : ServerAct → Prop
  | .tcpEvent env => ∀ errMask rest, s.batch = (s.net.tcpFd, errMask) :: rest →
      ¬LeaksSlot s.net errMask env
  | _ => True

def SlotsOnStack (net : Net) : Prop :=
  ∀ i < net.threadC, (net.chans i).isOnline = false → i ∈ net.chanStk.toList

lemma noSlotLeak_iff {s : Server} (h : NetInv s.net) : NoSlotLeak s ↔ SlotsOnStack s.net := by
  refine ⟨fun hs => hs.onStack, fun hs => ⟨hs, fun hoff => ?_⟩⟩
  have hsub : List.range s.net.threadC ⊆ s.net.chanStk.toList := by
    intro i hi
    rw [List.mem_range] at hi
    exact hs i hi (hoff i hi)
  have hle := (List.nodup_range.subperm hsub).length_le
  rw [List.length_range, Tstack.toList_length] at hle
  have hcap := h.stkCapacity
  unfold tssCount at *
  omega

lemma slotsOnStack_outClose {net : Net} (h : NetInv net) (hs : SlotsOnStack net) {fd i : ℕ}
    (hmap : net.eplMap fd = i + EPL_MAP_SHIFT) : SlotsOnStack (net.outClose fd i) := by
  intro j hj hoff
  have hl : (net.outClose fd i).chanStk.toList = i :: net.chanStk.toList := (h.close_room hmap).2
  rw [hl, List.mem_cons]
  by_cases hji : j = i
  · exact Or.inl hji
  · simp only [Net.outClose, Net.close, Net.setChan, Function.update_of_ne hji] at hoff
    exact Or.inr (hs j hj hoff)

lemma slotsOnStack_setChan {net : Net} (hs : SlotsOnStack net) {i : ℕ} {chan : Chan}
    (hchan : chan.isOnline = (net.chans i).isOnline) : SlotsOnStack (net.setChan i chan) := by
  intro j hj hoff
  rw [isOnline_setChan hchan] at hoff
  exact hs j hj hoff

lemma slotsOnStack_clientEffect {net : Net} (h : NetInv net) (hs : SlotsOnStack net) {fd i : ℕ}
    {errMask : Bool} {recv : Except ℤ (List UInt8)} {sub : Option ℕ} {net' : Net}
    (hmap : net.eplMap fd = i + EPL_MAP_SHIFT) (heff : ClientEffect net fd i errMask recv sub net') :
    SlotsOnStack net' := by
  cases heff with
  | again herr => exact hs
  | hangup recv hout => exact slotsOnStack_outClose h hs hmap
  | more bytes herr hne hwait => exact slotsOnStack_setChan hs rfl
  | reject bytes herr hne hrej =>
    have hi : NetInv (net.setChan i (receivedChan (net.chans i) bytes)) := h.setChan rfl rfl rfl
    exact slotsOnStack_outClose hi (slotsOnStack_setChan hs rfl) hmap
  | complete bytes herr hne hcomp => exact slotsOnStack_setChan hs rfl

lemma slotsOnStack_acceptEffect {net : Net} (h : NetInv net) (hs : SlotsOnStack net) {errMask : Bool}
    {env : AcceptEnv} {ret : ℤ} {net' : Net} (heff : AcceptEffect net errMask env ret net') :
    SlotsOnStack net' ↔ ¬LeaksSlot net errMask env := by
  cases heff with
  | refuse ret hkeep => exact ⟨fun _ => hkeep, fun _ => hs⟩
  | leak ret i stk hleak hstk hok hcap =>
    refine ⟨fun hs' => ?_, fun hn => absurd hleak hn⟩
    have hoff := h.stkOffline i (hstk ▸ List.mem_cons_self)
    have hmem := hs' i hoff.1 hoff.2
    have hnd := h.stkNodup
    rw [hstk, List.nodup_cons] at hnd
    exact absurd hmem hnd.1
  | accept fd i stk srcIp tvSec hkeep hfd hstk hok hcap hi =>
    refine ⟨fun _ => hkeep, fun _ j hj hoff => ?_⟩
    by_cases hji : j = i
    · subst hji
      simp [acceptedNet, acceptedChan] at hoff
    · simp only [acceptedNet, Function.update_of_ne hji] at hoff
      have hmem := hs j hj hoff
      rw [hstk, List.mem_cons] at hmem
      exact hmem.resolve_left hji

lemma slotsOnStack_effect {s s' : Server} (h : ServerInv s) (hs : SlotsOnStack s.net) {act : ServerAct}
    (he : ServerEffect s act s') : SlotsOnStack s'.net ↔ KeepsSlot s act := by
  cases he with
  | wait events hmain hbatch hok => exact ⟨fun _ => trivial, fun _ => hs⟩
  | tcp env errMask rest batch ret net stop hmain hbatch hacc heff hrest hstop =>
    have hiff := slotsOnStack_acceptEffect h.net hs heff
    constructor
    · intro hs' m r hb
      rw [hbatch, List.cons.injEq, Prod.mk.injEq] at hb
      obtain ⟨⟨-, rfl⟩, -⟩ := hb
      exact hiff.mp hs'
    · exact fun hk => hiff.mpr (hk errMask rest hbatch)
  | panic recv alloc fd errMask rest hbatch hfd hmap => exact ⟨fun _ => trivial, fun _ => hs⟩
  | client recv alloc fd errMask rest net hmain hbatch hfd hrecv hmap heff =>
    exact ⟨fun _ => trivial, fun _ => slotsOnStack_clientEffect h.net hs (NetInv.map_index hmap) heff⟩
  | enqueue recv alloc fd errMask rest n net pool hmain hbatch hfd hrecv hmap heff hpool hidle =>
    obtain ⟨hnet, -, -, hsame⟩ := h.net.clientEffect (NetInv.map_index hmap) heff
    have hs' := slotsOnStack_clientEffect h.net hs (NetInv.map_index hmap) heff
    exact ⟨fun _ => trivial, fun _ => slotsOnStack_outClose hnet hs' (hsame n rfl)⟩
  | store recv alloc fd errMask rest n net pool hmain hbatch hfd hrecv hmap heff hpool hpop =>
    exact ⟨fun _ => trivial, fun _ => slotsOnStack_clientEffect h.net hs (NetInv.map_index hmap) heff⟩
  | submitted create fd j pool hpend hpool =>
    exact ⟨fun _ => trivial, fun _ => slotsOnStack_outClose h.net hs (h.pending fd j hpend).1⟩
  | other act pool hsubmit hstore hpool => exact ⟨fun _ => trivial, fun _ => hs⟩

/-- A failing `run_acceptor` leaves `chan_stk` alone exactly when it fails before its pop. -/
lemma runAcceptor_chanStk_iff {net : Net} (h : NetInv net) {env : AcceptEnv} (hacc : AcceptOk net env)
    (hfail : (runAcceptor net env).1 ≠ 0) :
    (runAcceptor net env).2.chanStk = net.chanStk ↔ ¬LeaksSlot net false env := by
  have heff := handleTcpEvent_effect false h.stkOk hacc.new h.setOpen
  simp only [handleTcpEvent, Bool.false_eq_true, if_false] at heff
  cases hr : runAcceptor net env with
  | mk ret net' =>
    rw [hr] at heff hfail
    cases heff with
    | refuse ret hkeep => exact ⟨fun _ => hkeep, fun _ => rfl⟩
    | leak ret i stk hleak hstk hok hcap =>
      refine ⟨fun he => ?_, fun hn => absurd hleak hn⟩
      have hlen := congrArg List.length hstk
      rw [List.length_cons, ← show stk = net.chanStk from he] at hlen
      omega
    | accept fd i stk srcIp tvSec hkeep hfd hstk hok hcap hi => exact absurd rfl hfail

/-- Along a run no slot leaks exactly when no `run_acceptor` of the run fails after its pop. -/
theorem chan_slots_kept_iff (threadC tcpFd : ℕ) (chanJunk threadJunk : ℕ → ℕ → UInt8)
    (hc : threadC ≤ 0xffff) (acts : List ServerAct) (s : Server)
    (hrun : run serverStep (initServer threadC tcpFd chanJunk threadJunk) acts = some s) :
    (Always serverStep NoSlotLeak (initServer threadC tcpFd chanJunk threadJunk) acts ↔
      EachStep serverStep KeepsSlot (initServer threadC tcpFd chanJunk threadJunk) acts) ∧
    (∀ env, AcceptOk s.net env → (runAcceptor s.net env).1 ≠ 0 →
      ((runAcceptor s.net env).2.chanStk = s.net.chanStk ↔ ¬LeaksSlot s.net false env)) := by
  have hinit := ServerInv.init tcpFd chanJunk threadJunk hc
  constructor
  · refine always_iff_eachStep_of_inv ServerInv ?_ ?_ hinit ?_ hrun
    · intro q act q' hq hstep
      exact hq.effect (hq.toEffect hstep)
    · intro q act q' hq hgood hstep
      have he := hq.toEffect hstep
      rw [noSlotLeak_iff (hq.effect he).net]
      exact slotsOnStack_effect hq ((noSlotLeak_iff hq.net).mp hgood) he
    · refine (noSlotLeak_iff hinit.net).mpr (fun i hi _ => ?_)
      have hi' : i < threadC := hi
      rw [show (initServer threadC tcpFd chanJunk threadJunk).net.chanStk = fillStk threadC from rfl,
        toList_fillStk]
      exact List.mem_range.mpr hi'
  · intro env hacc hfail
    exact runAcceptor_chanStk_iff (serverInv_of_reachable hc ⟨acts, hrun⟩).1.net hacc hfail

theorem chan_slots_kept_reuseRun :
    Always serverStep NoSlotLeak (initServer 2 3 (fun _ _ => 0) (fun _ _ => 0)) reuseRun := by
  have hiff := (chan_slots_kept_iff 2 3 (fun _ _ => 0) (fun _ _ => 0) (by decide) reuseRun _ rfl).1
  refine hiff.mpr ⟨trivial, fun q₁ h₁ => ⟨?_, fun q₂ h₂ => ⟨trivial, fun q₃ h₃ =>
    ⟨trivial, fun q₄ h₄ => ⟨?_, fun _ _ => trivial⟩⟩⟩⟩⟩
  · obtain rfl := Option.some_inj.mp h₁
    rintro errMask rest - ⟨-, -, -, -, i, hi, hbad⟩
    obtain rfl : 0 = i := Option.some_inj.mp hi
    simp [acceptEnv, EPL_MAP_SIZE, EPL_MAP_SHIFT, Except.isOk, Except.toBool] at hbad
  · obtain rfl := Option.some_inj.mp h₁
    obtain rfl := Option.some_inj.mp h₂
    obtain rfl := Option.some_inj.mp h₃
    obtain rfl := Option.some_inj.mp h₄
    rintro errMask rest - ⟨-, -, -, -, i, hi, hbad⟩
    obtain rfl : 0 = i := Option.some_inj.mp hi
    simp [acceptEnv, EPL_MAP_SIZE, EPL_MAP_SHIFT, Except.isOk, Except.toBool] at hbad

/-- `epoll_ctl` has no room for the first client. -/
def leakRun : List ServerAct :=
  [.epollWait [(3, false)], .tcpEvent { acceptEnv 5 with epollAdd := some 28 }]

theorem chan_slot_leaks : ∃ s, run serverStep (initServer 1 3 (fun _ _ => 0) (fun _ _ => 0)) leakRun = some s ∧
    (s.net.chans 0).isOnline = false ∧ s.net.chanStk.toList = [] ∧ ¬NoSlotLeak s := by
  obtain ⟨s, hrun, hc, hoff, hstk⟩ : ∃ s,
      run serverStep (initServer 1 3 (fun _ _ => 0) (fun _ _ => 0)) leakRun = some s ∧
      s.net.threadC = 1 ∧ (s.net.chans 0).isOnline = false ∧ s.net.chanStk.toList = [] :=
    ⟨_, rfl, rfl, rfl, rfl⟩
  refine ⟨s, hrun, hoff, hstk, fun h => ?_⟩
  have hmem := h.onStack 0 (by rw [hc]; decide) hoff
  rw [hstk] at hmem
  cases hmem

end GNUWeebBot.Proofs
