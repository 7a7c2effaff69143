import GNUWeebBot.Proofs.PoolInvariant

/-!
# Where the packets are

Every ticket that was given out and is neither handled nor refused sits in at most one
place: an SQE, a slot, or the packet the main thread is about to store.
-/

namespace GNUWeebBot.Proofs
open Transition

def sqeTickets (sqes : Fifo QueNode) : List ℕ := sqes.items.map QueNode.ticket

def handledTickets (handled : List (ℕ × List UInt8)) : List ℕ := handled.map Prod.fst

@[grind cases]
structure TicketInv (p : Pool) : Prop where
  slotsDistinct : ∀ i j, (p.threads i).hasEvent = true → (p.threads j).hasEvent = true →
    (p.threads i).ticket = (p.threads j).ticket → i = j
  slotOld : ∀ i, (p.threads i).hasEvent = true →
    (p.threads i).ticket < p.nextTicket ∧ (p.threads i).ticket ∉ sqeTickets p.sqes
  mainOld : ∀ i cpyLen b t, p.main = .submit i cpyLen b t →
    t < p.nextTicket ∧ t ∉ sqeTickets p.sqes ∧ t ∉ handledTickets p.handled ∧
      ∀ j, (p.threads j).hasEvent = true → (p.threads j).ticket ≠ t
  sqesNodup : (sqeTickets p.sqes).Nodup
  sqeOld : ∀ t ∈ sqeTickets p.sqes, t < p.nextTicket ∧ t ∉ handledTickets p.handled
  handledNodup : (handledTickets p.handled).Nodup
  handledOld : ∀ t ∈ handledTickets p.handled, t < p.nextTicket
  armed : ∀ t w, p.workers t = some w → w.phase ≠ .running → w.phase ≠ .leaving →
    (p.threads w.idx).hasEvent = true → (p.threads w.idx).ticket ∉ handledTickets p.handled
  node : ∀ i, (p.threads i).hasEvent = true → (p.threads i).evFromSqe = true →
    ∀ n, (p.threads i).sqeNode = some n → n.ticket = (p.threads i).ticket
  running : ∀ t w, p.workers t = some w → w.phase = .running →
    (p.threads w.idx).ticket ∉ p.destroyed ∧ (p.threads w.idx).ticket ∈ handledTickets p.handled
  destroyedHandled : ∀ t ∈ p.destroyed, t ∈ handledTickets p.handled
  destroyedNodup : p.destroyed.Nodup

namespace TicketInv

variable {p : Pool}

lemma init (threadC : ℕ) (junk : ℕ → ℕ → UInt8) : TicketInv (initPool threadC junk) := by
  constructor <;> simp [initPool, resetThread, sqeTickets, handledTickets]

/-- Handing out one more ticket. -/
lemma withTicket (h : TicketInv p) (n : ℕ) (b : Buf) : TicketInv (withTicket p n b) := by
  refine { h with
    slotOld := fun i hi => ⟨Nat.lt_succ_of_lt (h.slotOld i hi).1, (h.slotOld i hi).2⟩
    mainOld := fun i c b t ht => ⟨Nat.lt_succ_of_lt (h.mainOld i c b t ht).1, (h.mainOld i c b t ht).2⟩
    sqeOld := fun t ht => ⟨Nat.lt_succ_of_lt (h.sqeOld t ht).1, (h.sqeOld t ht).2⟩
    handledOld := fun t ht => Nat.lt_succ_of_lt (h.handledOld t ht) }

/-- Nothing that happened before carries the ticket `t`. -/
def Unused (p : Pool) (t : ℕ) : Prop :=
  t < p.nextTicket ∧ t ∉ sqeTickets p.sqes ∧ t ∉ handledTickets p.handled ∧
    ∀ j, (p.threads j).hasEvent = true → (p.threads j).ticket ≠ t

lemma unused_next (h : TicketInv p) (n : ℕ) (b : Buf) :
    Unused (GNUWeebBot.Proofs.withTicket p n b) p.nextTicket := by
  refine ⟨Nat.lt_succ_self _, fun hm => ?_, fun hm => ?_, fun j hj he => ?_⟩
  · exact absurd (h.sqeOld _ hm).1 (Nat.lt_irrefl _)
  · exact absurd (h.handledOld _ hm) (Nat.lt_irrefl _)
  · have hlt : (p.threads j).ticket < p.nextTicket := (h.slotOld j hj).1
    exact absurd (he ▸ hlt) (Nat.lt_irrefl _)

lemma pushSqe (h : TicketInv p) (node : QueNode) (hmain : p.main = .idle) (hnew : Unused p node.ticket)
    (accepted : List ℕ) : TicketInv { p with sqes := p.sqes.push node, accepted := accepted } := by
  obtain ⟨hlt, hsqe, hhan, hslot⟩ := hnew
  have hl : sqeTickets (p.sqes.push node) = sqeTickets p.sqes ++ [node.ticket] := by
    simp [sqeTickets, Fifo.push]
  refine { h with
    slotOld := ?slotOld, mainOld := ?mainOld, sqesNodup := ?sqesNodup, sqeOld := ?sqeOld }
  case sqesNodup =>
    simp only [hl, List.nodup_append]
    grind
  all_goals simp only [hl, List.mem_append, List.mem_singleton]
  all_goals grind

/-- A packet with an unused ticket is stored in a slot that had no event. -/
lemma writeSlot (h : TicketInv p) {i : ℕ} {th : Thread}
    (hrun : ∀ t w, p.workers t = some w → w.phase = .running → w.idx ≠ i) (hnew : Unused p th.ticket)
    (hnode : th.evFromSqe = true → ∀ n, th.sqeNode = some n → n.ticket = th.ticket) :
    TicketInv { p with threads := Function.update p.threads i th, main := .idle } := by
  obtain ⟨hlt, hsqe, hhan, hslot⟩ := hnew
  refine { h with
    slotsDistinct := ?slotsDistinct, slotOld := ?slotOld, mainOld := ?mainOld, armed := ?armed
    node := ?node, running := ?running }
  all_goals simp only
  all_goals grind [Function.update]

lemma dequeue (h : TicketInv p) {node : QueNode} {que : Fifo QueNode}
    (hque : p.sqes.items = node :: que.items) :
    TicketInv { p with sqes := que } ∧ Unused { p with sqes := que } node.ticket := by
  have hl : sqeTickets p.sqes = node.ticket :: sqeTickets que := by simp [sqeTickets, hque]
  have hnd := h.sqesNodup
  rw [hl, List.nodup_cons] at hnd
  have hold : ∀ t ∈ sqeTickets que, t ∈ sqeTickets p.sqes := by
    intro t ht
    rw [hl]
    exact List.mem_cons_of_mem _ ht
  have hmem : node.ticket ∈ sqeTickets p.sqes := by
    rw [hl]
    exact List.mem_cons_self
  refine ⟨{ h with
    slotOld := ?slotOld, mainOld := ?mainOld, sqesNodup := hnd.2, sqeOld := ?sqeOld }, ?_⟩
  all_goals simp only [Unused]
  all_goals grind

/-- A worker is created for a slot that was just written. -/
lemma spawn (h : TicketInv p) {i : ℕ} (hnew : (p.threads i).ticket ∉ handledTickets p.handled)
    (accepted : List ℕ) :
    TicketInv { p with
      workers := Function.update p.workers p.nextTid (some ⟨i, .spawned⟩)
      nextTid := p.nextTid + 1
      accepted := accepted } := by
  refine { h with
    armed := ?armed, running := ?running }
  all_goals simp only
  all_goals grind [Function.update]

/-- A worker moves between two points of its loop outside the handler. -/
lemma move (h : TicketInv p) (new : Phase) {tid idx : ℕ} {old : Phase} (hw : p.workers tid = some ⟨idx, old⟩)
    (hnew : new ≠ .running) (hold : new = .leaving ∨ (old ≠ .running ∧ old ≠ .leaving)) :
    TicketInv { p with workers := Function.update p.workers tid (some ⟨idx, new⟩) } := by
  refine { h with
    armed := ?armed, running := ?running }
  all_goals simp only
  all_goals grind [Function.update]

/-- A worker enters the handler. -/
lemma enter (h : TicketInv p) (hp : PoolInv p) {tid idx : ℕ} {old : Phase}
    (hw : p.workers tid = some ⟨idx, old⟩) (hrun : old ≠ .running) (hleave : old ≠ .leaving)
    (hev : (p.threads idx).hasEvent = true) (str : List UInt8) :
    TicketInv { p with
      workers := Function.update p.workers tid (some ⟨idx, .running⟩)
      handled := ((p.threads idx).ticket, str) :: p.handled } := by
  have hfresh := h.armed tid _ hw hrun hleave hev
  have hl : handledTickets (((p.threads idx).ticket, str) :: p.handled) =
      (p.threads idx).ticket :: handledTickets p.handled := rfl
  refine { h with
    mainOld := ?mainOld, sqeOld := ?sqeOld, handledNodup := ?handledNodup
    handledOld := ?handledOld, armed := ?armed, running := ?running
    destroyedHandled := ?destroyedHandled }
  case handledNodup =>
    simp only [hl, List.nodup_cons]
    exact ⟨hfresh, h.handledNodup⟩
  case armed =>
    simp only [hl, List.mem_cons]
    intro t w ht hr hlv he
    have hne : t ≠ tid := by
      rintro rfl
      simp only [Function.update_self, Option.some_inj] at ht
      exact hr (by rw [← ht])
    rw [Function.update_of_ne hne] at ht
    rintro (heq | hm)
    · have hidx := h.slotsDistinct w.idx idx he hev heq
      exact hne (hp.unique t tid w _ ht hw hidx)
    · exact h.armed t w ht hr hlv he hm
  all_goals simp only [hl, List.mem_cons]
  all_goals grind [Function.update]

lemma freedTickets_eq (h : TicketInv p) {i : ℕ} (hev : (p.threads i).hasEvent = true) :
    freedTickets (p.threads i) = [] ∨ freedTickets (p.threads i) = [(p.threads i).ticket] := by
  unfold freedTickets
  cases hs : (p.threads i).evFromSqe with
  | false => exact Or.inl rfl
  | true =>
    cases hn : (p.threads i).sqeNode with
    | none => exact Or.inl rfl
    | some n =>
      right
      simp [h.node i hev hs n hn]

/-- The handler is done; the slot keeps its event or loses it. -/
lemma finish (h : TicketInv p) (hp : PoolInv p) {tid idx : ℕ} {new : Phase} {th : Thread}
    (hw : p.workers tid = some ⟨idx, .running⟩) (hnew : new ≠ .running)
    (hkeep : new = .leaving ∨ th.hasEvent = false) (hticket : th.ticket = (p.threads idx).ticket)
    (hnode : th.evFromSqe = true → th.sqeNode = none) :
    TicketInv { p with
      threads := Function.update p.threads idx th
      workers := Function.update p.workers tid (some ⟨idx, new⟩)
      destroyed := freedTickets (p.threads idx) ++ p.destroyed } := by
  have hev := hp.busy tid _ hw (Or.inr rfl)
  have hrun := h.running tid _ hw rfl
  have hfreed := h.freedTickets_eq hev
  refine { h with
    slotsDistinct := ?slotsDistinct, slotOld := ?slotOld, mainOld := ?mainOld, armed := ?armed
    node := ?node, running := ?running, destroyedHandled := ?destroyedHandled
    destroyedNodup := ?destroyedNodup }
  case destroyedNodup =>
    rcases hfreed with he | he
    · simp only [he, List.nil_append]
      exact h.destroyedNodup
    · simp only [he, List.cons_append, List.nil_append, List.nodup_cons]
      exact ⟨hrun.1, h.destroyedNodup⟩
  case running =>
    intro t w ht hph
    have hne : t ≠ tid := by
      rintro rfl
      simp only [Function.update_self, Option.some_inj] at ht
      exact hnew (by rw [← hph, ← ht])
    simp only [Function.update_of_ne hne] at ht
    have hidx : w.idx ≠ idx := fun he => hne (hp.unique t tid w _ ht hw he)
    have hother := h.running t w ht hph
    have htick : (p.threads w.idx).ticket ≠ (p.threads idx).ticket := fun he =>
      hidx (h.slotsDistinct _ _ (hp.busy t w ht (Or.inr hph)) hev he)
    simp only [Function.update_of_ne hidx, List.mem_append, not_or]
    refine ⟨⟨?_, hother.1⟩, hother.2⟩
    rcases hfreed with he | he <;> simp [he, htick]
  all_goals simp only
  all_goals grind [Function.update]

lemma reset (h : TicketInv p) {tid idx : ℕ} {th : Thread} (hev : th.hasEvent = false)
    (hother : ∀ t w, p.workers t = some w → w.idx = idx → t = tid) :
    TicketInv { p with
      threads := Function.update p.threads idx th
      workers := Function.update p.workers tid none } := by
  refine { h with
    slotsDistinct := ?slotsDistinct, slotOld := ?slotOld, mainOld := ?mainOld, armed := ?armed
    node := ?node, running := ?running }
  all_goals simp only
  all_goals grind [Function.update]

/-- No handler runs on the slot that the main thread has popped. -/
lemma not_running (hp : PoolInv p) {i : ℕ} (hpop : p.main.popped = some i) :
    ∀ t w, p.workers t = some w → w.phase = .running → w.idx ≠ i := by
  rintro t w ht hph rfl
  have hev := hp.busy t w ht (Or.inr hph)
  rw [(hp.poppedIdle w.idx hpop).2.2] at hev
  exact Bool.noConfusion hev

lemma submit (h : TicketInv p) (hp : PoolInv p) {i cpyLen ticket : ℕ} {b : Buf}
    (hmain : p.main = .submit i cpyLen b ticket) :
    TicketInv { p with
      threads := Function.update p.threads i (submitStore (p.threads i) b cpyLen ticket)
      main := .idle } := by
  have hpop : p.main.popped = some i := by rw [hmain]; rfl
  exact h.writeSlot (not_running hp hpop) (h.mainOld i cpyLen b ticket hmain) (by simp [submitStore])

lemma dispatch (h : TicketInv p) (hp : PoolInv p) {i : ℕ} {node : QueNode} {que : Fifo QueNode}
    (hmain : p.main = .dispatch i) (hque : p.sqes.items = node :: que.items) :
    TicketInv { p with
      sqes := que
      threads := Function.update p.threads i (dispatchStore (p.threads i) node)
      main := .idle } ∧ node.ticket ∉ handledTickets p.handled := by
  have hpop : p.main.popped = some i := by rw [hmain]; rfl
  obtain ⟨hq, hnew⟩ := h.dequeue hque
  refine ⟨hq.writeSlot (not_running hp hpop) hnew ?_, hnew.2.2.1⟩
  rintro - n hn
  simp only [dispatchStore, Option.some_inj] at hn
  rw [← hn]
  rfl

/-- Neither invariant sees whether a slot is online. -/
lemma setOnline (h : TicketInv p) (idx : ℕ) :
    TicketInv { p with
      threads := Function.update p.threads idx { p.threads idx with isOnline := true } } := by
  have hf : ∀ i, (Function.update p.threads idx { p.threads idx with isOnline := true } i).hasEvent =
        (p.threads i).hasEvent ∧
      (Function.update p.threads idx { p.threads idx with isOnline := true } i).ticket =
        (p.threads i).ticket := by
    intro i
    by_cases hi : i = idx
    · subst hi
      simp
    · simp [hi]
  refine { h with
    slotsDistinct := ?slotsDistinct, slotOld := ?slotOld, mainOld := ?mainOld, armed := ?armed
    node := ?node, running := ?running }
  case node =>
    simp only
    grind [Function.update]
  all_goals simp only [hf]
  case slotsDistinct => exact h.slotsDistinct
  case slotOld => exact h.slotOld
  case mainOld => exact h.mainOld
  case armed => exact h.armed
  case running => exact h.running

theorem effect (h : TicketInv p) (hp : PoolInv p) {act : PoolAct} {p' : Pool}
    (he : PoolEffect p act p') : TicketInv p' := by
  cases he with
  | enqueueFail n b alloc hmain hstk => exact h.withTicket n b
  | enqueue n b junk hmain hstk =>
    exact (h.withTicket n b).pushSqe (sqeNodeOf b (offsetofData + n) p.nextTicket junk) hmain
      (h.unused_next n b) _
  | popSubmit n b alloc i stk hmain hstk hok hcap =>
    refine { h.withTicket n b with mainOld := ?_ }
    intro i' c' b' t' ht
    simp only [MainPc.submit.injEq] at ht
    obtain ⟨-, -, -, rfl⟩ := ht
    exact h.unused_next n b
  | submitOnline i cpyLen b ticket create hmain hfree hon => exact { h.submit hp hmain with }
  | submitSpawn i cpyLen b ticket hmain hfree hoff =>
    refine (h.submit hp hmain).spawn (i := i) ?_ _
    simp only [Function.update_self]
    exact (h.mainOld i cpyLen b ticket hmain).2.2.1
  | submitNoThread i cpyLen b ticket create hmain hfree hoff hcreate => exact h.submit hp hmain
  | dispatchBusy hmain hstk => exact h
  | popDispatch i stk hmain hque hstk hok hcap =>
    refine { h with mainOld := ?_ }
    intro i' c' b' t' ht
    cases ht
  | dispatchOnline i create node que hmain hfree hque hon => exact (h.dispatch hp hmain hque).1
  | dispatchSpawn i node que hmain hfree hque hoff =>
    obtain ⟨hd, hnew⟩ := h.dispatch hp hmain hque
    refine hd.spawn (i := i) ?_ _
    simp only [Function.update_self]
    exact hnew
  | dispatchNoThread i create node que hmain hfree hque hoff hcreate => exact (h.dispatch hp hmain hque).1
  | dispatchPanic i create hmain hque => exact { h with }
  | startRun tid idx old hw hold hfree hev =>
    have hrun : old ≠ .running ∧ old ≠ .leaving := by rcases hold with rfl | rfl <;> simp
    exact { (h.enter hp hw hrun.1 hrun.2 hev (p.threads idx).jsonStr).setOnline idx with }
  | startWait tid idx old hw hold hfree hev =>
    have hrun : old ≠ .running ∧ old ≠ .leaving := by rcases hold with rfl | rfl <;> simp
    exact { (h.move (.waiting 0) hw (by simp) (Or.inr hrun)).setOnline idx with }
  | wakeLeave tid idx counter ret hw hfree hout =>
    exact h.move .leaving hw (by simp) (Or.inl rfl)
  | wakeRun tid idx counter ret hw hfree hstay hev => exact h.enter hp hw (by simp) (by simp) hev _
  | wakeWait tid idx counter next ret hw hfree hstay hev =>
    exact h.move (.waiting next) hw (by simp) (Or.inr (by simp))
  | finishLeave tid idx hw hstop =>
    have hth := PoolInv.finishedThread_fields (p.threads idx)
    refine h.finish hp hw (by simp) (Or.inl rfl) hth.2.2.2 ?_
    unfold finishedThread
    split <;> simp_all
  | finishClear tid idx hw hgo =>
    have hth := PoolInv.finishedThread_fields (p.threads idx)
    refine h.finish hp hw (by simp) (Or.inr rfl) hth.2.2.2 ?_
    unfold finishedThread
    split <;> simp_all
  | push tid idx hw => exact { h.move .pushed hw (by simp) (Or.inr (by simp)) with }
  | unlock tid idx hw => exact h.move .again hw (by simp) (Or.inr (by simp))
  | reset tid idx hw =>
    exact h.reset rfl (fun t w ht hi => hp.unique t tid w _ ht hw hi)
  | interrupt => exact { h with }

end TicketInv

lemma poolEffect_threadC {p p' : Pool} {act : PoolAct} (he : PoolEffect p act p') :
    p'.threadC = p.threadC := by
  cases he <;> rfl

/-! ### All reachable pools -/

section

variable {threadC : ℕ} {junk : ℕ → ℕ → UInt8} {p : Pool}

lemma poolInv_of_reachable (hreach : Reachable poolStep (initPool threadC junk) p) :
    (PoolInv p ∧ TicketInv p) ∧ p.threadC = threadC := by
  refine reachable_preserves (fun p => (PoolInv p ∧ TicketInv p) ∧ p.threadC = threadC) ?_ ?_ hreach
  · rintro q act q' ⟨⟨hp, ht⟩, hc⟩ hstep
    have he := poolStep_effect hp.stkOk hstep
    exact ⟨⟨hp.effect he, ht.effect hp he⟩, (poolEffect_threadC he).trans hc⟩
  · exact ⟨⟨PoolInv.init threadC junk, TicketInv.init threadC junk⟩, rfl⟩

end

/-- The slot that an action of the main thread writes an event into. -/
def writtenSlot (p : Pool) : PoolAct → Option ℕ
  | .submitToThread _ => match p.main with
    | .submit i _ _ _ => some i
    | _ => none
  | .dispatchSqe _ => match p.main with
    | .dispatch i => some i
    | _ => none
  | _ => none

lemma popped_of_writtenSlot {p : Pool} {act : PoolAct} {i : ℕ} (h : writtenSlot p act = some i) :
    p.main.popped = some i := by
  unfold writtenSlot at h
  split at h
  · split at h <;> simp_all [MainPc.popped]
  · split at h <;> simp_all [MainPc.popped]
  · cases h

/-- No slot is booked twice and no packet is handled twice, in any interleaving, with
`pthread_create` free to fail and `stop_el` free to become true. -/
theorem pool_no_double_booking (threadC : ℕ) (junk : ℕ → ℕ → UInt8) (p : Pool)
    (hreach : Reachable poolStep (initPool threadC junk) p) :
    p.threadStk.toList.Nodup ∧
    (∀ i ∈ p.threadStk.toList, i < threadC ∧ (p.threads i).hasEvent = false) ∧
    (∀ t t' w w', p.workers t = some w → p.workers t' = some w' → w.idx = w'.idx → t = t') ∧
    (∀ act i, writtenSlot p act = some i → (p.threads i).hasEvent = false ∧
      ∀ t w, p.workers t = some w → w.idx = i → w.phase ≠ .running) ∧
    (∀ t idx, p.workers t = some ⟨idx, .cleared⟩ →
      (tssPush p.threadStk (p.threads idx).threadIdx).1 ≠ -1) ∧
    (∀ i, p.main = .dispatch i → p.sqes.dequeue ≠ none) ∧ p.aborted = false ∧
    (p.handled.map Prod.fst).Nodup ∧ p.destroyed.Nodup := by
  obtain ⟨⟨hp, ht⟩, hc⟩ := poolInv_of_reachable hreach
  refine ⟨hp.stkNodup, fun i hi => hc ▸ hp.stkIdle i hi, hp.unique, ?_, ?_, ?_, hp.notAborted,
    ht.handledNodup, ht.destroyedNodup⟩
  · intro act i hw
    have hpop := popped_of_writtenSlot hw
    refine ⟨(hp.poppedIdle i hpop).2.2, fun t w htw hi hph => ?_⟩
    exact TicketInv.not_running hp hpop t w htw hph hi
  · intro t idx hw
    have hroom := hp.push_room hw
    simp only [tssPush, if_neg hroom]
    omega
  · intro i hi hd
    exact hp.queued i hi (Fifo.dequeue_eq_none.mp hd)

/-- One worker handles a packet, a second packet waits in an SQE and is about to be dispatched. -/
def sqeRun : List PoolAct :=
  [.submitEvent 0 (Buf.fresh (fun _ => 0)) none, .submitToThread 0, .start 0,
    .submitEvent 0 (Buf.fresh (fun _ => 0)) (some (fun _ => 0)), .finish 0, .push 0, .unlock 0,
    .dispatchPop]

theorem pool_no_double_booking_sqeRun : ∃ p, run poolStep (initPool 1 (fun _ _ => 0)) sqeRun = some p ∧
    writtenSlot p (.dispatchSqe 0) = some 0 ∧ (p.threads 0).hasEvent = false ∧
    p.sqes.dequeue ≠ none ∧ (p.handled.map Prod.fst).Nodup := by
  obtain ⟨p, hrun, hmain⟩ : ∃ p, run poolStep (initPool 1 (fun _ _ => 0)) sqeRun = some p ∧
      p.main = .dispatch 0 := ⟨_, rfl, rfl⟩
  have hw : writtenSlot p (.dispatchSqe 0) = some 0 := by simp [writtenSlot, hmain]
  have h := pool_no_double_booking 1 (fun _ _ => 0) p ⟨sqeRun, hrun⟩
  exact ⟨p, hrun, hw, (h.2.2.2.1 (.dispatchSqe 0) 0 hw).1, h.2.2.2.2.2.1 0 hmain, h.2.2.2.2.2.2.2.1⟩

end GNUWeebBot.Proofs
