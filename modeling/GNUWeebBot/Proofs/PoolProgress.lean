import GNUWeebBot.Proofs.Drain
import GNUWeebBot.Proofs.NoLoss

/-!
# Accepted packets are handled

As long as the harmful orders of steps do not occur, the pool never gets stuck with an accepted packet:
while no new packet comes, the threads can take a bounded number of steps that do something, in any
order, and where none of them can be taken every accepted packet has been handled.
-/

namespace GNUWeebBot.Proofs
open Transition

/-! ### The backlog -/

/-- The steps of a worker until it waits on a slot without an event. -/
def phaseBacklog : Phase → Bool → ℕ
  | .spawned, _ => 8
  | .again, hasEvent => if hasEvent then 8 else 3
  | .waiting _, hasEvent => if hasEvent then 7 else 2
  | .running, _ => 6
  | .cleared, _ => 5
  | .pushed, hasEvent => if hasEvent then 9 else 4
  | .leaving, _ => 1

def workerBacklog (threads : ℕ → Thread) (w : Option Worker) : ℕ :=
  (w.map (fun w => phaseBacklog w.phase (threads w.idx).hasEvent)).getD 0

def workersBacklog (threads : ℕ → Thread) (workers : ℕ → Option Worker) (n : ℕ) : ℕ :=
  ∑ t ∈ Finset.range n, workerBacklog threads (workers t)

/-- A packet on its way to a slot has the steps of its worker ahead. -/
def mainBacklog : MainPc → ℕ
  | .idle => 1
  | .submit _ _ _ _ => 10
  | .dispatch _ => 0

def backlog (p : Pool) : ℕ := 10 * p.sqes.items.length + mainBacklog p.main + workersBacklog p.threads p.workers p.nextTid

/-- No new packet, no signal, no failure of `pthread_create`, and neither of the harmful orders. -/
def Proceeds (p : Pool) (act : PoolAct) : Prop :=
  QuietAct act ∧ BenignStep p act ∧ ∀ n b alloc, act ≠ .submitEvent n b alloc

/-- The step does more than to look for an event or for a free worker. -/
def fruitful (p : Pool) : PoolAct → Bool
  | .wake tid _ => (p.workers tid).any (fun w => (p.threads w.idx).hasEvent)
  | .dispatchPop => !p.threadStk.toList.isEmpty
  | _ => true

def AllHandled (p : Pool) : Prop := ∀ t ∈ p.accepted, t ∈ handledTickets p.handled

variable {p p' : Pool}

lemma phaseBacklog_le (ph : Phase) (hasEvent : Bool) : phaseBacklog ph hasEvent ≤ 9 := by
  cases ph <;> cases hasEvent <;> simp [phaseBacklog]

lemma holdsEvLock_of_free {i tid : ℕ} {w : Worker} (hp : PoolInv p) (hfree : p.evLockFree i = true)
    (hw : p.workers tid = some w) (hi : w.idx = i) : w.phase.holdsEvLock = false := by
  unfold Pool.evLockFree at hfree
  rw [List.all_eq_true] at hfree
  have htid := hfree tid (List.mem_range.mpr (hp.tidLt tid w hw).1)
  simpa [hw, hi] using htid

/-- Only slot `i` changes. -/
def OnlySlot (threads threads' : ℕ → Thread) (i : ℕ) : Prop := ∀ j, j ≠ i → (threads' j).hasEvent = (threads j).hasEvent

lemma onlySlot_update (threads : ℕ → Thread) (i : ℕ) (th : Thread) : OnlySlot threads (Function.update threads i th) i := by
  intro j hj
  rw [Function.update_of_ne hj]

lemma onlySlot_refl (threads : ℕ → Thread) (i : ℕ) : OnlySlot threads threads i := fun _ _ => rfl

/-- One thread id changes, on a slot of its own. -/
lemma workersBacklog_worker (hp : PoolInv p) {tid : ℕ} {w : Worker} (hw : p.workers tid = some w) (x : Option Worker)
    {threads : ℕ → Thread} (hth : OnlySlot p.threads threads w.idx) :
    workersBacklog threads (Function.update p.workers tid x) p.nextTid + phaseBacklog w.phase (p.threads w.idx).hasEvent =
      workersBacklog p.threads p.workers p.nextTid + workerBacklog threads x := by
  have hsum := sum_range_change (f := fun t => workerBacklog p.threads (p.workers t))
    (g := fun t => workerBacklog threads (Function.update p.workers tid x t)) (hp.tidLt tid w hw).1 (by
      intro t ht
      simp only [Function.update_of_ne ht]
      cases hw' : p.workers t with
      | none => rfl
      | some w' =>
        have hne : w'.idx ≠ w.idx := fun heq => ht (hp.unique t tid w' w hw' hw heq)
        simp only [workerBacklog, Option.map_some, Option.getD_some, hth _ hne])
  simp only [Function.update_self, hw] at hsum
  exact hsum

lemma workersBacklog_worker_lt (hp : PoolInv p) {tid : ℕ} {w : Worker} (hw : p.workers tid = some w) (x : Option Worker)
    {threads : ℕ → Thread} (hth : OnlySlot p.threads threads w.idx)
    (hlt : workerBacklog threads x < phaseBacklog w.phase (p.threads w.idx).hasEvent) (k : ℕ) :
    k + workersBacklog threads (Function.update p.workers tid x) p.nextTid <
      k + workersBacklog p.threads p.workers p.nextTid := by
  have h := workersBacklog_worker hp hw x hth
  omega

/-- The main thread writes the slot of a worker that does not hold `ev_lock`. -/
lemma workersBacklog_online (hp : PoolInv p) {i : ℕ} (hpop : p.main.popped = some i) (hon : (p.threads i).isOnline = true)
    (hfree : p.evLockFree i = true) (hleave : ∀ tid, p.workers tid ≠ some ⟨i, .leaving⟩) (th : Thread)
    (hev : th.hasEvent = true) :
    workersBacklog (Function.update p.threads i th) p.workers p.nextTid =
      workersBacklog p.threads p.workers p.nextTid + 5 := by
  obtain ⟨tid, ⟨idx, ph⟩, hw, hi⟩ := hp.served i hon
  obtain rfl : idx = i := hi
  have hsum := workersBacklog_worker hp hw (some ⟨idx, ph⟩) (onlySlot_update p.threads idx th)
  rw [← hw, Function.update_eq_self, hw] at hsum
  have hlock := holdsEvLock_of_free hp hfree hw rfl
  have hspawned := (hp.isOnline tid _ hw).mp hon
  have hidle := (hp.poppedIdle idx hpop).2.2
  simp only [workerBacklog, Option.map_some, Option.getD_some, Function.update_self, hev, hidle] at hsum
  cases ph with
  | spawned => exact absurd rfl hspawned
  | leaving => exact absurd hw (hleave tid)
  | running | cleared | pushed => cases hlock
  | again | waiting =>
    simp only [phaseBacklog, if_true, Bool.false_eq_true, if_false] at hsum
    omega

/-- The main thread writes an offline slot and creates its worker. -/
lemma workersBacklog_spawn (hp : PoolInv p) {i : ℕ} (hpop : p.main.popped = some i) (hoff : (p.threads i).isOnline = false)
    (th : Thread) :
    workersBacklog (Function.update p.threads i th) (Function.update p.workers p.nextTid (some ⟨i, .spawned⟩)) (p.nextTid + 1) =
      workersBacklog p.threads p.workers p.nextTid + 8 := by
  unfold workersBacklog
  rw [Finset.sum_range_succ, Function.update_self]
  congr 1
  apply Finset.sum_congr rfl
  intro t ht
  rw [Function.update_of_ne (Nat.ne_of_lt (Finset.mem_range.mp ht))]
  cases hw : p.workers t with
  | none => rfl
  | some w =>
    have hne := hp.no_worker hpop hoff t w hw
    simp only [workerBacklog, Option.map_some, Option.getD_some, onlySlot_update p.threads i th _ hne]

/-! ### Every fruitful step lowers it -/

lemma backlog_lowers (hp : PoolInv p) (hstop : p.stopEl = false) {act : PoolAct} (hgo : Proceeds p act)
    (hfruit : fruitful p act = true) (he : PoolEffect p act p') : backlog p' < backlog p := by
  obtain ⟨hquiet, hben, hnew⟩ := hgo
  unfold backlog
  cases he with
  | enqueueFail n b alloc | enqueue n b | popSubmit n b alloc => exact absurd rfl (hnew _ _ _)
  | interrupt => exact absurd rfl hquiet.ne_interrupt
  | submitNoThread i cpyLen b ticket create hmain hfree hoff hcreate
  | dispatchNoThread i create node que hmain hfree hque hoff hcreate => exact absurd hquiet hcreate
  | dispatchPanic i create hmain hque => exact absurd hque (hp.queued i hmain)
  | dispatchBusy hmain hstk => simp [fruitful, hstk] at hfruit
  | popDispatch i stk hmain =>
    simp only [hmain, mainBacklog]
    omega
  | submitOnline i cpyLen b ticket create hmain hfree hon =>
    have hpop : p.main.popped = some i := by rw [hmain]; rfl
    have hsum := workersBacklog_online hp hpop hon hfree (fun tid => hben i tid hpop)
      (submitStore (p.threads i) b cpyLen ticket) rfl
    simp only [hmain, mainBacklog, hsum]
    omega
  | submitSpawn i cpyLen b ticket hmain hfree hoff =>
    have hpop : p.main.popped = some i := by rw [hmain]; rfl
    simp only [hmain, mainBacklog, workersBacklog_spawn hp hpop hoff]
    omega
  | dispatchOnline i create node que hmain hfree hque hon =>
    have hpop : p.main.popped = some i := by rw [hmain]; rfl
    have hsum := workersBacklog_online hp hpop hon hfree (fun tid => hben i tid hpop)
      (dispatchStore (p.threads i) node) rfl
    simp only [hmain, mainBacklog, hque, List.length_cons, hsum]
    omega
  | dispatchSpawn i node que hmain hfree hque hoff =>
    have hpop : p.main.popped = some i := by rw [hmain]; rfl
    simp only [hmain, mainBacklog, hque, List.length_cons, workersBacklog_spawn hp hpop hoff]
    omega
  | startRun tid idx old hw hold hfree hev =>
    apply workersBacklog_worker_lt hp hw _ (onlySlot_update _ _ _)
    rcases hold with rfl | rfl <;> simp [workerBacklog, phaseBacklog, hev]
  | startWait tid idx old hw hold hfree hev =>
    obtain rfl : old = .again := by
      rcases hold with rfl | rfl
      · rw [hp.busy tid _ hw (.inl rfl)] at hev
        cases hev
      · rfl
    apply workersBacklog_worker_lt hp hw _ (onlySlot_update _ _ _)
    simp [workerBacklog, phaseBacklog, hev]
  | wakeLeave tid idx counter ret hw hfree hout =>
    apply workersBacklog_worker_lt hp hw _ (onlySlot_refl _ _)
    simp only [workerBacklog, phaseBacklog, Option.map_some, Option.getD_some]
    split <;> omega
  | wakeRun tid idx counter ret hw hfree hstay hev =>
    apply workersBacklog_worker_lt hp hw _ (onlySlot_refl _ _)
    simp [workerBacklog, phaseBacklog, hev]
  | wakeWait tid idx counter next ret hw hfree hstay hev => simp [fruitful, hw, hev] at hfruit
  | finishLeave tid idx hw hout =>
    rw [hstop] at hout
    cases hout
  | finishClear tid idx hw =>
    apply workersBacklog_worker_lt hp hw _ (onlySlot_update _ _ _)
    simp [workerBacklog, phaseBacklog]
  | push tid idx hw =>
    have hev := (hp.cleared tid _ hw rfl).1
    apply workersBacklog_worker_lt hp hw _ (onlySlot_refl _ _)
    simp [workerBacklog, phaseBacklog, hev]
  | unlock tid idx hw =>
    apply workersBacklog_worker_lt hp hw _ (onlySlot_refl _ _)
    simp only [workerBacklog, phaseBacklog, Option.map_some, Option.getD_some]
    split <;> omega
  | reset tid idx hw =>
    apply workersBacklog_worker_lt hp hw _ (onlySlot_update _ _ _)
    simp [workerBacklog, phaseBacklog]

/-- A look for an event counts the time-outs only. -/
lemma backlog_keeps (hp : PoolInv p) {act : PoolAct} (hfruit : fruitful p act = false) (he : PoolEffect p act p') :
    backlog p' ≤ backlog p := by
  unfold backlog
  cases he with
  | dispatchBusy => exact Nat.le_refl _
  | popDispatch i stk hmain hque hstk => simp [fruitful, hstk] at hfruit
  | wakeLeave tid idx counter ret hw hfree hout =>
    apply Nat.le_of_lt
    apply workersBacklog_worker_lt hp hw _ (onlySlot_refl _ _)
    simp only [workerBacklog, phaseBacklog, Option.map_some, Option.getD_some]
    split <;> omega
  | wakeRun tid idx counter ret hw hfree hstay hev => simp [fruitful, hw, hev] at hfruit
  | wakeWait tid idx counter next ret hw hfree hstay hev =>
    have hsame := workersBacklog_worker hp hw (some ⟨idx, .waiting next⟩) (onlySlot_refl p.threads idx)
    simp only [workerBacklog, phaseBacklog, Option.map_some, Option.getD_some, hev, Bool.false_eq_true, if_false] at hsame
    have hle : workersBacklog p.threads (Function.update p.workers tid (some ⟨idx, .waiting next⟩)) p.nextTid ≤
        workersBacklog p.threads p.workers p.nextTid := by omega
    exact Nat.add_le_add_left hle _
  | _ => cases hfruit

/-! ### Somebody can take one -/

/-- A step under `ev_lock` is fruitful and has no condition. -/
lemma holder_proceeds {i : ℕ} (hab : p.aborted = false) (hlock : p.evLockFree i = false) :
    ∃ act p', Proceeds p act ∧ fruitful p act = true ∧ poolStep p act = some p' := by
  unfold Pool.evLockFree at hlock
  rw [List.all_eq_false] at hlock
  obtain ⟨t, _, ht⟩ := hlock
  cases hw : p.workers t with
  | none => simp [hw] at ht
  | some w =>
    obtain ⟨idx, ph⟩ := w
    simp only [hw, Bool.or_eq_true, Bool.not_eq_true', not_or, Bool.not_eq_false] at ht
    cases ph with
    | running => exact ⟨.finish t, _, ⟨trivial, trivial, by simp⟩, rfl, by simp only [poolStep, hab, hw]; rfl⟩
    | cleared => exact ⟨.push t, _, ⟨trivial, trivial, by simp⟩, rfl, by simp only [poolStep, hab, hw]; rfl⟩
    | pushed => exact ⟨.unlock t, _, ⟨trivial, trivial, by simp⟩, rfl, by simp only [poolStep, hab, hw]; rfl⟩
    | spawned | again | waiting | leaving => cases ht.2

lemma served_proceeds (hab : p.aborted = false) {i : ℕ} (hev : (p.threads i).hasEvent = true) (hserved : Served p.workers i) :
    ∃ act p', Proceeds p act ∧ fruitful p act = true ∧ poolStep p act = some p' := by
  obtain ⟨t, ⟨idx, ph⟩, hw, rfl, hph⟩ := hserved
  by_cases hlock : p.evLockFree idx = true
  · cases ph with
    | leaving => exact absurd rfl hph
    | spawned => exact ⟨.start t, _, ⟨trivial, trivial, by simp⟩, rfl, by simp only [poolStep, hab, hw, hlock]; rfl⟩
    | again => exact ⟨.start t, _, ⟨trivial, trivial, by simp⟩, rfl, by simp only [poolStep, hab, hw, hlock]; rfl⟩
    | waiting counter =>
      refine ⟨.wake t 0, _, ⟨trivial, fun _ _ hret => absurd rfl hret, by simp⟩, ?_, by simp only [poolStep, hab, hw, hlock]; rfl⟩
      simp [fruitful, hw, hev]
    | running => exact ⟨.finish t, _, ⟨trivial, trivial, by simp⟩, rfl, by simp only [poolStep, hab, hw]; rfl⟩
    | cleared => exact ⟨.push t, _, ⟨trivial, trivial, by simp⟩, rfl, by simp only [poolStep, hab, hw]; rfl⟩
    | pushed => exact ⟨.unlock t, _, ⟨trivial, trivial, by simp⟩, rfl, by simp only [poolStep, hab, hw]; rfl⟩
  · exact holder_proceeds hab (Bool.not_eq_true _ ▸ hlock)

/-- The main thread writes the slot it has popped, after a worker that is on its way out. -/
lemma popped_proceeds (hp : PoolInv p) {i : ℕ} (hpop : p.main.popped = some i) :
    ∃ act p', Proceeds p act ∧ fruitful p act = true ∧ poolStep p act = some p' := by
  have hab := hp.notAborted
  by_cases hleave : ∃ tid, p.workers tid = some ⟨i, .leaving⟩
  · obtain ⟨tid, hw⟩ := hleave
    exact ⟨.reset tid, _, ⟨trivial, trivial, by simp⟩, rfl, by simp only [poolStep, hab, hw]; rfl⟩
  · by_cases hlock : p.evLockFree i = true
    · have hnone : ∀ j tid, p.main.popped = some j → p.workers tid ≠ some ⟨j, .leaving⟩ := by
        intro j tid hj hw
        rw [hpop, Option.some_inj] at hj
        exact hleave ⟨tid, hj ▸ hw⟩
      cases hmain : p.main with
      | idle => simp [hmain, MainPc.popped] at hpop
      | submit j cpyLen b ticket =>
        simp only [hmain, MainPc.popped, Option.some_inj] at hpop
        subst hpop
        exact ⟨.submitToThread 0, _, ⟨rfl, hnone, by simp⟩, rfl, by simp only [poolStep, hab, hmain, if_pos hlock]; rfl⟩
      | dispatch j =>
        simp only [hmain, MainPc.popped, Option.some_inj] at hpop
        subst hpop
        exact ⟨.dispatchSqe 0, _, ⟨rfl, hnone, by simp⟩, rfl, by simp only [poolStep, hab, hmain, if_pos hlock]; rfl⟩
    · exact holder_proceeds hab (Bool.not_eq_true _ ▸ hlock)

/-- Where a packet is queued and no worker is free, there is one that has something to do. -/
lemma queued_proceeds (hp : PoolInv p) (hs : Secure p) (hthread : 0 < p.threadC) (hidle : p.main = .idle)
    (hque : p.sqes.items ≠ []) : ∃ act p', Proceeds p act ∧ fruitful p act = true ∧ poolStep p act = some p' := by
  have hab := hp.notAborted
  by_cases hstk : p.threadStk.toList = []
  · rcases hs.indices 0 hthread with hmem | hpop | ⟨hev, hserved⟩ | ⟨t, hw⟩
    · rw [hstk] at hmem
      cases hmem
    · exact popped_proceeds hp hpop
    · exact served_proceeds hab hev hserved
    · exact ⟨.push t, _, ⟨trivial, trivial, by simp⟩, rfl, by simp only [poolStep, hab, hw]; rfl⟩
  · have hlen : ¬p.sqes.items.length = 0 := by simpa using hque
    refine ⟨.dispatchPop, _, ⟨trivial, trivial, by simp⟩, ?_, by simp only [poolStep, hab, hidle, if_neg hlen]; rfl⟩
    simp [fruitful, hstk]

lemma backlog_progress (hp : PoolInv p) (hs : Secure p) (hthread : 0 < p.threadC) (hleft : ¬AllHandled p) :
    ∃ act p', Proceeds p act ∧ fruitful p act = true ∧ poolStep p act = some p' := by
  unfold AllHandled at hleft
  simp only [not_forall] at hleft
  obtain ⟨t, hacc, hnot⟩ := hleft
  rcases hs.packets t hacc hnot with hmem | ⟨i, hev, -, hserved⟩
  · cases hmain : p.main with
    | idle =>
      apply queued_proceeds hp hs hthread hmain
      intro hempty
      simp [sqeTickets, hempty] at hmem
    | submit | dispatch => exact popped_proceeds hp (by rw [hmain]; rfl)
  · exact served_proceeds hp.notAborted hev hserved

/-! ### Whole runs -/

structure BusyInv (threadC : ℕ) (p : Pool) : Prop where
  pool : PoolInv p
  tickets : TicketInv p
  secure : Secure p
  going : p.stopEl = false
  threadC : p.threadC = threadC

lemma busyInv_step {threadC : ℕ} (h : BusyInv threadC p) {act : PoolAct} (hquiet : QuietAct act) (hben : BenignStep p act)
    (hstep : poolStep p act = some p') : BusyInv threadC p' := by
  have he := poolStep_effect h.pool.stkOk hstep
  exact ⟨h.pool.effect he, h.tickets.effect h.pool he,
    h.secure.effect h.pool h.tickets h.going hquiet.spawns hquiet.ne_interrupt hben he,
    (poolEffect_stopEl he hquiet.ne_interrupt).trans h.going, (poolEffect_threadC he).trans h.threadC⟩

lemma backlog_drains {threadC : ℕ} (hthread : 0 < threadC) :
    Drains poolStep (BusyInv threadC) AllHandled Proceeds fruitful backlog where
  inv _ _ _ h hgo hstep := busyInv_step h hgo.1 hgo.2.1 hstep
  lowers _ _ _ h hgo hfruit hstep := backlog_lowers h.pool h.going hgo hfruit (poolStep_effect h.pool.stkOk hstep)
  keeps _ _ _ h _ hfruit hstep := backlog_keeps h.pool hfruit (poolStep_effect h.pool.stkOk hstep)
  progress _ h hleft := backlog_progress h.pool h.secure (h.threadC ▸ hthread) hleft

lemma busyInv_init (threadC : ℕ) (junk : ℕ → ℕ → UInt8) : BusyInv threadC (initPool threadC junk) where
  pool := PoolInv.init threadC junk
  tickets := TicketInv.init threadC junk
  secure := Secure.init threadC junk
  going := rfl
  threadC := rfl

lemma busyInv_run {threadC : ℕ} {acts : List PoolAct} (h : BusyInv threadC p) (hquiet : ∀ act ∈ acts, QuietAct act)
    (hben : EachStep poolStep BenignStep p acts) (hrun : run poolStep p acts = some p') : BusyInv threadC p' := by
  induction acts generalizing p with
  | nil =>
    rw [run_nil, Option.some_inj] at hrun
    exact hrun ▸ h
  | cons act acts ih =>
    obtain ⟨q, hstep, hrest⟩ := run_cons.mp hrun
    exact ih (busyInv_step h (hquiet act List.mem_cons_self) hben.1 hstep)
      (fun a ha => hquiet a (List.mem_cons_of_mem act ha)) (hben.2 q hstep) hrest

/-- There are as many workers as slots at most. -/
lemma workersBacklog_le (hp : PoolInv p) : workersBacklog p.threads p.workers p.nextTid ≤ 9 * p.threadC := by
  have hterm : ∀ w, workerBacklog p.threads w ≤ if w.isSome then 9 else 0 := by
    intro w
    cases w with
    | none => exact Nat.le_refl 0
    | some w => exact phaseBacklog_le _ _
  exact sum_alive_le hp hterm

/-- One packet waits for the worker that is created for another one. -/
def backlogRun : List PoolAct :=
  oneRun.take 2 ++ [.submitEvent 0 (Buf.fresh (fun _ => 0)) (some (fun _ => 0))]

end GNUWeebBot.Proofs
