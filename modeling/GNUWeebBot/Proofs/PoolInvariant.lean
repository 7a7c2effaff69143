import GNUWeebBot.Proofs.PoolEffects

/-!
# Invariants of the worker pool

`PoolInv` ties together `thread_stk`, `has_event`, `is_online` and the live workers;
`TicketInv` says where the packets are. Both are kept by every action of every party,
with `pthread_create` free to fail and `stop_el` free to become true.
-/

namespace GNUWeebBot.Proofs
open Transition

@[grind cases]
structure PoolInv (p : Pool) : Prop where
  stkOk : p.threadStk.Ok
  stkCapacity : p.threadStk.capacity = p.threadC
  stkNodup : p.threadStk.toList.Nodup
  stkIdle : ∀ i ∈ p.threadStk.toList, i < p.threadC ∧ (p.threads i).hasEvent = false
  poppedIdle : ∀ i, p.main.popped = some i →
    i < p.threadC ∧ i ∉ p.threadStk.toList ∧ (p.threads i).hasEvent = false
  threadIdx : ∀ i, (p.threads i).threadIdx = i
  tidLt : ∀ t w, p.workers t = some w → t < p.nextTid ∧ w.idx < p.threadC
  unique : ∀ t t' w w', p.workers t = some w → p.workers t' = some w' → w.idx = w'.idx → t = t'
  isOnline : ∀ t w, p.workers t = some w → ((p.threads w.idx).isOnline = true ↔ w.phase ≠ .spawned)
  served : ∀ i, (p.threads i).isOnline = true → ∃ t w, p.workers t = some w ∧ w.idx = i
  busy : ∀ t w, p.workers t = some w → w.phase = .spawned ∨ w.phase = .running →
    (p.threads w.idx).hasEvent = true
  cleared : ∀ t w, p.workers t = some w → w.phase = .cleared →
    (p.threads w.idx).hasEvent = false ∧ w.idx ∉ p.threadStk.toList ∧ p.main.popped ≠ some w.idx
  queued : ∀ i, p.main = .dispatch i → p.sqes.items ≠ []
  notAborted : p.aborted = false

namespace PoolInv

variable {p : Pool}

lemma init (threadC : ℕ) (junk : ℕ → ℕ → UInt8) : PoolInv (initPool threadC junk) where
  stkOk := (ok_fillStk threadC).1
  stkCapacity := (ok_fillStk threadC).2
  stkNodup := by
    rw [show (initPool threadC junk).threadStk = fillStk threadC from rfl, toList_fillStk]
    exact List.nodup_range
  stkIdle := by
    intro i hi
    rw [show (initPool threadC junk).threadStk = fillStk threadC from rfl, toList_fillStk,
      List.mem_range] at hi
    exact ⟨hi, rfl⟩
  poppedIdle := by simp [initPool, MainPc.popped]
  threadIdx _ := rfl
  tidLt := by simp [initPool]
  unique := by simp [initPool]
  isOnline := by simp [initPool]
  served := by simp [initPool, resetThread]
  busy := by simp [initPool]
  cleared := by simp [initPool]
  queued := by simp [initPool]
  notAborted := rfl

lemma exists_move {workers : ℕ → Option Worker} {tid idx i : ℕ} {old new : Phase}
    (hw : workers tid = some ⟨idx, old⟩) (h : ∃ t w, workers t = some w ∧ w.idx = i) :
    ∃ t w, Function.update workers tid (some ⟨idx, new⟩) t = some w ∧ w.idx = i := by
  obtain ⟨t, w, ht, rfl⟩ := h
  by_cases htt : t = tid
  · subst htt
    rw [hw, Option.some_inj] at ht
    exact ⟨t, _, Function.update_self .., by rw [← ht]⟩
  · exact ⟨t, w, by rw [Function.update_of_ne htt, ht], rfl⟩

/-- `tss_pop` on `thread_stk`: the main thread then holds the index. -/
lemma popIndex (h : PoolInv p) (main : MainPc) {i : ℕ} {stk : Tstack}
    (hl : p.threadStk.toList = i :: stk.toList) (hok : stk.Ok)
    (hcap : stk.capacity = p.threadStk.capacity) (hmain : main.popped = some i)
    (hque : ∀ j, main = .dispatch j → p.sqes.items ≠ []) :
    PoolInv { p with threadStk := stk, main := main } := by
  have hnd := h.stkNodup
  rw [hl, List.nodup_cons] at hnd
  refine { h with
    stkOk := hok, stkCapacity := hcap.trans h.stkCapacity, stkNodup := hnd.2
    stkIdle := ?stkIdle, poppedIdle := ?poppedIdle, cleared := ?cleared, queued := hque }
  case stkIdle => exact fun j hj => h.stkIdle j (hl ▸ List.mem_cons_of_mem i hj)
  case poppedIdle =>
    intro j hj
    obtain rfl : i = j := Option.some_inj.mp (hmain.symm.trans hj)
    have hi := h.stkIdle i (hl ▸ List.mem_cons_self)
    exact ⟨hi.1, hnd.1, hi.2⟩
  case cleared =>
    intro t w ht hph
    obtain ⟨hev, hmem, _⟩ := h.cleared t w ht hph
    rw [hl, List.mem_cons, not_or] at hmem
    refine ⟨hev, hmem.2, fun he => hmem.1 ?_⟩
    exact Option.some_inj.mp (he.symm.trans hmain)

/-- The slot write shared by `submit_to_thread` and `dispatch_sqe`. -/
lemma writeSlot (h : PoolInv p) (th : Thread) {i : ℕ} (hpop : p.main.popped = some i)
    (hev : th.hasEvent = true) (hon : th.isOnline = (p.threads i).isOnline)
    (hidx : th.threadIdx = (p.threads i).threadIdx) (que : Fifo QueNode) :
    PoolInv { p with sqes := que, threads := Function.update p.threads i th, main := .idle } := by
  have hi := h.poppedIdle i hpop
  refine { h with
    stkIdle := ?stkIdle, poppedIdle := ?poppedIdle, threadIdx := ?threadIdx, isOnline := ?isOnline
    served := ?served, busy := ?busy, cleared := ?cleared, queued := ?queued }
  all_goals simp only [MainPc.popped]
  all_goals grind [Function.update]

/-- `pthread_create` for a slot that has an event and no worker. -/
lemma spawn (h : PoolInv p) {i : ℕ} (hi : i < p.threadC)
    (hoff : (p.threads i).isOnline = false) (hev : (p.threads i).hasEvent = true)
    (hnone : ∀ t w, p.workers t = some w → w.idx ≠ i) :
    PoolInv { p with
      workers := Function.update p.workers p.nextTid (some ⟨i, .spawned⟩)
      nextTid := p.nextTid + 1 } := by
  refine { h with
    tidLt := ?tidLt, unique := ?unique, isOnline := ?isOnline, served := ?served
    busy := ?busy, cleared := ?cleared }
  all_goals simp only
  case isOnline =>
    intro t w ht
    by_cases htt : t = p.nextTid
    · rw [htt, Function.update_self, Option.some_inj] at ht
      simp [← ht, hoff]
    · rw [Function.update_of_ne htt] at ht
      exact h.isOnline t w ht
  case served =>
    intro j hj
    obtain ⟨t, w, ht, rfl⟩ := h.served j hj
    have htt : t ≠ p.nextTid := Nat.ne_of_lt (h.tidLt t w ht).1
    exact ⟨t, w, by rw [Function.update_of_ne htt, ht], rfl⟩
  all_goals grind [Function.update]

/-- A worker goes on to another point of `handle_thread`, its slot unchanged. -/
lemma move (h : PoolInv p) (new : Phase) {tid idx : ℕ} {old : Phase}
    (hw : p.workers tid = some ⟨idx, old⟩) (hold : old ≠ .spawned) (hnew : new ≠ .spawned)
    (hrun : new = .running → (p.threads idx).hasEvent = true) (hclear : new ≠ .cleared) :
    PoolInv { p with workers := Function.update p.workers tid (some ⟨idx, new⟩) } := by
  refine { h with
    tidLt := ?tidLt, unique := ?unique, isOnline := ?isOnline, served := ?served
    busy := ?busy, cleared := ?cleared }
  case served => exact fun i hi => exists_move hw (h.served i hi)
  all_goals simp only
  all_goals grind [Function.update]

/-- A worker that has started writes its own slot and goes on. -/
lemma writeOwn (h : PoolInv p) (th : Thread) (new : Phase) (freed : List ℕ) {tid idx : ℕ} {old : Phase}
    (hw : p.workers tid = some ⟨idx, old⟩) (hnew : new ≠ .spawned) (hon : th.isOnline = true)
    (hidx : th.threadIdx = (p.threads idx).threadIdx)
    (hkeep : th.hasEvent = (p.threads idx).hasEvent ∨ th.hasEvent = false)
    (hrun : new = .running → th.hasEvent = true)
    (hclear : new = .cleared → th.hasEvent = false ∧ idx ∉ p.threadStk.toList ∧ p.main.popped ≠ some idx) :
    PoolInv { p with
      threads := Function.update p.threads idx th
      workers := Function.update p.workers tid (some ⟨idx, new⟩)
      destroyed := freed } := by
  refine { h with
    stkIdle := ?stkIdle, poppedIdle := ?poppedIdle, threadIdx := ?threadIdx, tidLt := ?tidLt
    unique := ?unique, isOnline := ?isOnline, served := ?served, busy := ?busy
    cleared := ?cleared }
  all_goals simp only
  case served =>
    intro i hi
    refine exists_move hw ?_
    by_cases hii : i = idx
    · exact ⟨tid, _, hw, hii.symm⟩
    · rw [Function.update_of_ne hii] at hi
      exact h.served i hi
  all_goals grind [Function.update]

/-- A worker starts: the slot goes online. -/
lemma start (h : PoolInv p) (new : Phase) {tid idx : ℕ} {old : Phase}
    (hw : p.workers tid = some ⟨idx, old⟩) (hnew : new ≠ .spawned) (hclear : new ≠ .cleared)
    (hrun : new = .running → (p.threads idx).hasEvent = true) :
    PoolInv { p with
      threads := Function.update p.threads idx { p.threads idx with isOnline := true }
      workers := Function.update p.workers tid (some ⟨idx, new⟩) } :=
  h.writeOwn _ new p.destroyed hw hnew rfl rfl (Or.inl rfl) hrun (fun hcleared => absurd hcleared hclear)

/-- An offline slot that the main thread may write has no worker. -/
lemma no_worker (h : PoolInv p) {i : ℕ} (hpop : p.main.popped = some i)
    (hoff : (p.threads i).isOnline = false) : ∀ t w, p.workers t = some w → w.idx ≠ i := by
  rintro t w ht rfl
  have hph : w.phase = .spawned := by
    by_contra hne
    rw [(h.isOnline t w ht).mpr hne] at hoff
    exact Bool.noConfusion hoff
  have hev := h.busy t w ht (Or.inl hph)
  rw [(h.poppedIdle w.idx hpop).2.2] at hev
  exact Bool.noConfusion hev

lemma finishedThread_fields (th : Thread) : (finishedThread th).hasEvent = th.hasEvent ∧
    (finishedThread th).isOnline = th.isOnline ∧ (finishedThread th).threadIdx = th.threadIdx ∧
    (finishedThread th).ticket = th.ticket := by
  unfold finishedThread
  split <;> exact ⟨rfl, rfl, rfl, rfl⟩

/-- A worker that runs the handler is online. -/
lemma running_online (h : PoolInv p) {tid idx : ℕ} (hw : p.workers tid = some ⟨idx, .running⟩) :
    (finishedThread (p.threads idx)).isOnline = true := by
  rw [(finishedThread_fields (p.threads idx)).2.1]
  exact (h.isOnline tid _ hw).mpr (by simp)

/-- The handler is done and the loop goes on. -/
lemma clear (h : PoolInv p) {tid idx : ℕ} (hw : p.workers tid = some ⟨idx, .running⟩)
    (freed : List ℕ) :
    PoolInv { p with
      threads := Function.update p.threads idx { finishedThread (p.threads idx) with hasEvent := false }
      workers := Function.update p.workers tid (some ⟨idx, .cleared⟩)
      destroyed := freed } := by
  have hev := h.busy tid _ hw (Or.inr rfl)
  have hth := finishedThread_fields (p.threads idx)
  have hstk : idx ∉ p.threadStk.toList := fun hm => by
    rw [(h.stkIdle idx hm).2] at hev
    exact Bool.noConfusion hev
  have hpop : p.main.popped ≠ some idx := fun hm => by
    rw [(h.poppedIdle idx hm).2.2] at hev
    exact Bool.noConfusion hev
  exact h.writeOwn _ .cleared freed hw (by simp) (h.running_online hw) hth.2.2.1 (Or.inr rfl) (by simp)
    (fun _ => ⟨rfl, hstk, hpop⟩)

/-- The handler is done and `stop_el` is set. -/
lemma leave (h : PoolInv p) {tid idx : ℕ} (hw : p.workers tid = some ⟨idx, .running⟩)
    (freed : List ℕ) :
    PoolInv { p with
      threads := Function.update p.threads idx (finishedThread (p.threads idx))
      workers := Function.update p.workers tid (some ⟨idx, .leaving⟩)
      destroyed := freed } := by
  have hth := finishedThread_fields (p.threads idx)
  exact h.writeOwn _ .leaving freed hw (by simp) (h.running_online hw) hth.2.2.1 (Or.inl hth.1) (by simp) (by simp)

/-- There is room on `thread_stk` for the index of a worker that cleared its slot. -/
lemma push_room (h : PoolInv p) {tid idx : ℕ} (hw : p.workers tid = some ⟨idx, .cleared⟩) :
    p.threadStk.sp ≠ 0 := by
  have hmem := (h.cleared tid _ hw rfl).2.1
  have hlt := (h.tidLt tid _ hw).2
  apply Tstack.room_of_length_lt
  rw [h.stkCapacity]
  exact length_lt_of_nodup_of_not_mem h.stkNodup (fun j hj => (h.stkIdle j hj).1) hlt hmem

lemma toList_push (h : PoolInv p) {tid idx : ℕ} (hw : p.workers tid = some ⟨idx, .cleared⟩) :
    (tssPush p.threadStk (p.threads idx).threadIdx).2.toList = idx :: p.threadStk.toList := by
  rw [Tstack.toList_tssPush h.stkOk (h.push_room hw), h.threadIdx idx]

lemma push (h : PoolInv p) {tid idx : ℕ} (hw : p.workers tid = some ⟨idx, .cleared⟩) :
    PoolInv { p with
      workers := Function.update p.workers tid (some ⟨idx, .pushed⟩)
      threadStk := (tssPush p.threadStk (p.threads idx).threadIdx).2 } := by
  have hl := h.toList_push hw
  have hcl := h.cleared tid _ hw rfl
  refine { h with
    stkOk := Tstack.ok_tssPush h.stkOk _, stkCapacity := ?stkCapacity, stkNodup := ?stkNodup
    stkIdle := ?stkIdle, poppedIdle := ?poppedIdle, tidLt := ?tidLt, unique := ?unique
    isOnline := ?isOnline, served := ?served, busy := ?busy, cleared := ?cleared }
  case stkCapacity => exact (Tstack.capacity_tssPush _ _).trans h.stkCapacity
  case stkNodup =>
    simp only [hl, List.nodup_cons]
    exact ⟨hcl.2.1, h.stkNodup⟩
  case served => exact fun i hi => exists_move hw (h.served i hi)
  all_goals simp only [hl, List.mem_cons]
  all_goals grind [Function.update]

/-- `reset_thread` of a worker on its way out. -/
lemma reset (h : PoolInv p) {tid idx : ℕ} (hw : p.workers tid = some ⟨idx, .leaving⟩) :
    PoolInv { p with
      threads := Function.update p.threads idx
        (resetThread (p.threads idx) (p.threads idx).threadIdx)
      workers := Function.update p.workers tid none } := by
  refine { h with
    stkIdle := ?stkIdle, poppedIdle := ?poppedIdle, threadIdx := ?threadIdx, tidLt := ?tidLt
    unique := ?unique, isOnline := ?isOnline, served := ?served, busy := ?busy
    cleared := ?cleared }
  all_goals simp only [resetThread]
  case served =>
    intro i hi
    have hii : i ≠ idx := by
      rintro rfl
      simp at hi
    rw [Function.update_of_ne hii] at hi
    obtain ⟨t, w, ht, rfl⟩ := h.served i hi
    have htt : t ≠ tid := by
      rintro rfl
      rw [hw, Option.some_inj] at ht
      exact hii (by rw [← ht])
    exact ⟨t, w, by rw [Function.update_of_ne htt, ht], rfl⟩
  all_goals grind [Function.update]

theorem effect (h : PoolInv p) {act : PoolAct} {p' : Pool} (he : PoolEffect p act p') : PoolInv p' := by
  cases he with
  | enqueueFail n b alloc hmain hstk => exact { h with }
  | enqueue n b junk hmain hstk =>
    refine { h with queued := fun i hi => ?_ }
    exact absurd (hmain.symm.trans hi) (by simp)
  | popSubmit n b alloc i stk hmain hstk hok hcap =>
    have hp := h.popIndex (.submit i (offsetofData + n) b p.nextTicket) hstk hok hcap rfl (by simp)
    exact { hp with }
  | submitOnline i cpyLen b ticket create hmain hfree hon =>
    have hpop : p.main.popped = some i := by rw [hmain]; rfl
    have hw := h.writeSlot (submitStore (p.threads i) b cpyLen ticket) hpop rfl rfl rfl p.sqes
    exact { hw with }
  | submitSpawn i cpyLen b ticket hmain hfree hoff =>
    have hpop : p.main.popped = some i := by rw [hmain]; rfl
    have hw := h.writeSlot (submitStore (p.threads i) b cpyLen ticket) hpop rfl rfl rfl p.sqes
    have hs := hw.spawn (i := i) (h.poppedIdle i hpop).1 (by simpa [submitStore] using hoff)
      (by simp [submitStore]) (h.no_worker hpop hoff)
    exact { hs with }
  | submitNoThread i cpyLen b ticket create hmain hfree hoff hcreate =>
    have hpop : p.main.popped = some i := by rw [hmain]; rfl
    exact h.writeSlot (submitStore (p.threads i) b cpyLen ticket) hpop rfl rfl rfl p.sqes
  | dispatchBusy hmain hstk => exact h
  | popDispatch i stk hmain hque hstk hok hcap => exact h.popIndex (.dispatch i) hstk hok hcap rfl (fun _ _ => hque)
  | dispatchOnline i create node que hmain hfree hque hon =>
    have hpop : p.main.popped = some i := by rw [hmain]; rfl
    exact h.writeSlot (dispatchStore (p.threads i) node) hpop rfl rfl rfl que
  | dispatchSpawn i node que hmain hfree hque hoff =>
    have hpop : p.main.popped = some i := by rw [hmain]; rfl
    have hw := h.writeSlot (dispatchStore (p.threads i) node) hpop rfl rfl rfl que
    exact hw.spawn (i := i) (h.poppedIdle i hpop).1 (by simpa [dispatchStore] using hoff)
      (by simp [dispatchStore]) (h.no_worker hpop hoff)
  | dispatchNoThread i create node que hmain hfree hque hoff hcreate =>
    have hpop : p.main.popped = some i := by rw [hmain]; rfl
    exact h.writeSlot (dispatchStore (p.threads i) node) hpop rfl rfl rfl que
  | dispatchPanic i create hmain hque => exact absurd hque (h.queued i hmain)
  | startRun tid idx old hw hold hfree hev =>
    have hs := h.start .running hw (by simp) (by simp) (fun _ => hev)
    exact { hs with }
  | startWait tid idx old hw hold hfree hev =>
    exact h.start (.waiting 0) hw (by simp) (by simp) (by simp)
  | wakeLeave tid idx counter ret hw hfree hout =>
    exact h.move .leaving hw (by simp) (by simp) (by simp) (by simp)
  | wakeRun tid idx counter ret hw hfree hstay hev =>
    have hm := h.move .running hw (by simp) (by simp) (fun _ => hev) (by simp)
    exact { hm with }
  | wakeWait tid idx counter next ret hw hfree hstay hev =>
    exact h.move (.waiting next) hw (by simp) (by simp) (by simp) (by simp)
  | finishLeave tid idx hw hstop => exact h.leave hw _
  | finishClear tid idx hw hgo => exact h.clear hw _
  | push tid idx hw => exact h.push hw
  | unlock tid idx hw => exact h.move .again hw (by simp) (by simp) (by simp) (by simp)
  | reset tid idx hw => exact h.reset hw
  | interrupt => exact { h with }

end PoolInv

end GNUWeebBot.Proofs
