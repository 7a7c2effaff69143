import GNUWeebBot.Proofs.NoLoss

/-!
# A thread that cannot be created

`submit_to_thread` and `dispatch_sqe` write the slot before they spawn its worker, and nothing is
undone where `pthread_create` fails: the index stays off `thread_stk` for good.
-/

namespace GNUWeebBot.Proofs
open Transition

/-- What a failed spawn would have to leave behind. -/
structure Restored (p p' : Pool) (act : PoolAct) (i : ℕ) : Prop where
  index : i ∈ p'.threadStk.toList
  idle : (p'.threads i).hasEvent = false
  queue : ∀ create, act = .dispatchSqe create → p'.sqes.items.head? = p.sqes.items.head?

def SpawnRestores (p : Pool) (act : PoolAct) : Prop :=
  ∀ i p', SpawnFails p act i → poolStep p act = some p' → Restored p p' act i

/-- Until the server is told to stop, each index is on the stack, in the hands of the main thread, or with
a worker that will push it. -/
def Available (p : Pool) : Prop := p.stopEl = true ∨ ∀ i < p.threadC, Accounted p i

/-- The slot is taken, and no worker or main thread will give it back. -/
structure Lost (p : Pool) (i : ℕ) : Prop where
  event : (p.threads i).hasEvent = true
  popped : p.main.popped ≠ some i
  worker : ∀ t w, p.workers t = some w → w.idx ≠ i

section Step

variable {p p' : Pool} {act : PoolAct} {i : ℕ}

lemma lost_of_spawnFails (hp : PoolInv p) (he : PoolEffect p act p') (h : SpawnFails p act i) : Lost p' i := by
  obtain ⟨hpop, hoff, create, hcreate, hact⟩ := h
  have hworker : ∀ t w, p.workers t = some w → w.idx ≠ i := by
    intro t w ht hi
    -- a worker of an offline slot was spawned and has its event
    have hphase : w.phase = .spawned := by
      by_contra hne
      have hon := (hp.isOnline t w ht).mpr hne
      rw [hi, hoff] at hon
      cases hon
    have hev := hp.busy t w ht (.inl hphase)
    rw [hi, (hp.poppedIdle i hpop).2.2] at hev
    cases hev
  cases he with
  | submitOnline j cpyLen b ticket create' hmain hfree hon =>
    rw [hmain, MainPc.popped, Option.some_inj] at hpop
    rw [← hpop, hon] at hoff
    cases hoff
  | submitSpawn j cpyLen b ticket hmain hfree hoff' =>
    obtain hact | hact := hact <;> cases hact
    exact absurd rfl hcreate
  | submitNoThread j cpyLen b ticket create' hmain hfree hoff' hcreate' =>
    rw [hmain, MainPc.popped, Option.some_inj] at hpop
    subst hpop
    exact ⟨by simp [submitStore], by simp [MainPc.popped], hworker⟩
  | dispatchOnline j create' node que hmain hfree hque hon =>
    rw [hmain, MainPc.popped, Option.some_inj] at hpop
    rw [← hpop, hon] at hoff
    cases hoff
  | dispatchSpawn j node que hmain hfree hque hoff' =>
    obtain hact | hact := hact <;> cases hact
    exact absurd rfl hcreate
  | dispatchNoThread j create' node que hmain hfree hque hoff' hcreate' =>
    rw [hmain, MainPc.popped, Option.some_inj] at hpop
    subst hpop
    exact ⟨by simp [dispatchStore], by simp [MainPc.popped], hworker⟩
  | dispatchPanic j create' hmain hque => exact absurd hque (hp.queued j hmain)
  | _ => obtain hact | hact := hact <;> cases hact

lemma Lost.not_accounted (hp : PoolInv p) (h : Lost p i) : ¬Accounted p i := by
  rintro (hstk | hpop | ⟨-, t, w, ht, hi, -⟩ | ⟨t, ht⟩)
  · have hidle := (hp.stkIdle i hstk).2
    rw [h.event] at hidle
    cases hidle
  · exact h.popped hpop
  · exact h.worker t w ht hi
  · exact h.worker t _ ht rfl

/-- A write to another slot, for which a worker may be spawned. -/
lemma Lost.write (h : Lost p i) {j : ℕ} (hj : p.main.popped = some j) (th : Thread) {workers : ℕ → Option Worker}
    (hworkers : workers = p.workers ∨ workers = Function.update p.workers p.nextTid (some ⟨j, .spawned⟩))
    (sqes : Fifo QueNode) (nextTid : ℕ) (accepted : List ℕ) :
    Lost { p with
      sqes := sqes
      threads := Function.update p.threads j th
      main := .idle
      workers := workers
      nextTid := nextTid
      accepted := accepted } i := by
  have hne : i ≠ j := fun heq => h.popped (heq ▸ hj)
  refine ⟨?_, by simp [MainPc.popped], ?_⟩
  · simp only [Function.update_of_ne hne]
    exact h.event
  · intro t w ht
    obtain rfl | rfl := hworkers
    · exact h.worker t w ht
    · by_cases htt : t = p.nextTid
      · simp only [htt, Function.update_self, Option.some_inj] at ht
        rw [← ht]
        exact hne.symm
      · simp only [Function.update_of_ne htt] at ht
        exact h.worker t w ht

/-- A worker of another slot goes on, leaves or is gone. -/
lemma Lost.move (h : Lost p i) {tid idx : ℕ} {old : Phase} (hw : p.workers tid = some ⟨idx, old⟩) {x : Option Worker}
    (hx : ∀ w, x = some w → w.idx = idx) (th : Thread) (stk : Tstack) (handled : List (ℕ × List UInt8)) (destroyed : List ℕ) :
    Lost { p with
      threads := Function.update p.threads idx th
      threadStk := stk
      workers := Function.update p.workers tid x
      handled := handled
      destroyed := destroyed } i := by
  have hne : idx ≠ i := h.worker tid _ hw
  refine ⟨?_, h.popped, ?_⟩
  · simp only [Function.update_of_ne hne.symm]
    exact h.event
  · intro t w ht
    by_cases htt : t = tid
    · simp only [htt, Function.update_self] at ht
      rw [hx w ht]
      exact hne
    · simp only [Function.update_of_ne htt] at ht
      exact h.worker t w ht

/-- Nothing that can happen later brings the index back. -/
lemma Lost.effect (hp : PoolInv p) (h : Lost p i) (he : PoolEffect p act p') : Lost p' i := by
  have hstk : ∀ {j : ℕ} {stk : Tstack}, p.threadStk.toList = j :: stk.toList → some j ≠ some i := by
    intro j stk hstk heq
    have hidle := (hp.stkIdle j (by rw [hstk]; exact List.mem_cons_self)).2
    rw [Option.some_inj.mp heq, h.event] at hidle
    cases hidle
  have hself : ∀ idx, Function.update p.threads idx (p.threads idx) = p.threads := fun idx => Function.update_eq_self ..
  have hsame : ∀ {idx : ℕ} {phase : Phase} (w : Worker), some (⟨idx, phase⟩ : Worker) = some w → w.idx = idx := by
    intro idx phase w hw
    rw [← Option.some_inj.mp hw]
  cases he with
  | enqueueFail n b alloc hmain hstk' => exact ⟨h.event, h.popped, h.worker⟩
  | enqueue n b junk hmain hstk' => exact ⟨h.event, h.popped, h.worker⟩
  | popSubmit n b alloc j stk hmain hstk' hok hcap => exact ⟨h.event, hstk hstk', h.worker⟩
  | popDispatch j stk hmain hque hstk' hok hcap => exact ⟨h.event, hstk hstk', h.worker⟩
  | submitOnline j cpyLen b ticket create hmain hfree hon =>
    exact h.write (by rw [hmain]; rfl) _ (.inl rfl) p.sqes p.nextTid _
  | submitSpawn j cpyLen b ticket hmain hfree hoff => exact h.write (by rw [hmain]; rfl) _ (.inr rfl) p.sqes _ _
  | submitNoThread j cpyLen b ticket create hmain hfree hoff hcreate =>
    exact h.write (by rw [hmain]; rfl) _ (.inl rfl) p.sqes p.nextTid p.accepted
  | dispatchOnline j create node que hmain hfree hque hon =>
    exact h.write (by rw [hmain]; rfl) _ (.inl rfl) que p.nextTid p.accepted
  | dispatchSpawn j node que hmain hfree hque hoff => exact h.write (by rw [hmain]; rfl) _ (.inr rfl) que _ p.accepted
  | dispatchNoThread j create node que hmain hfree hque hoff hcreate =>
    exact h.write (by rw [hmain]; rfl) _ (.inl rfl) que p.nextTid p.accepted
  | startRun tid idx old hw hold hfree hev => exact h.move hw hsame _ p.threadStk _ p.destroyed
  | startWait tid idx old hw hold hfree hev => exact h.move hw hsame _ p.threadStk p.handled p.destroyed
  | wakeLeave tid idx counter ret hw hfree hout =>
    have hlost := h.move (x := some ⟨idx, .leaving⟩) hw hsame (p.threads idx) p.threadStk p.handled p.destroyed
    rw [hself] at hlost
    exact hlost
  | wakeRun tid idx counter ret hw hfree hstay hev =>
    have hlost := h.move (x := some ⟨idx, .running⟩) hw hsame (p.threads idx) p.threadStk
      (((p.threads idx).ticket, (p.threads idx).jsonStr) :: p.handled) p.destroyed
    rw [hself] at hlost
    exact hlost
  | wakeWait tid idx counter next ret hw hfree hstay hev =>
    have hlost := h.move (x := some ⟨idx, .waiting next⟩) hw hsame (p.threads idx) p.threadStk p.handled p.destroyed
    rw [hself] at hlost
    exact hlost
  | finishLeave tid idx hw hstop => exact h.move hw hsame _ p.threadStk p.handled _
  | finishClear tid idx hw hgo => exact h.move hw hsame _ p.threadStk p.handled _
  | push tid idx hw =>
    have hlost := h.move (x := some ⟨idx, .pushed⟩) hw hsame (p.threads idx)
      (tssPush p.threadStk (p.threads idx).threadIdx).2 p.handled p.destroyed
    rw [hself] at hlost
    exact hlost
  | unlock tid idx hw =>
    have hlost := h.move (x := some ⟨idx, .again⟩) hw hsame (p.threads idx) p.threadStk p.handled p.destroyed
    rw [hself] at hlost
    exact hlost
  | reset tid idx hw => exact h.move hw (by simp) _ p.threadStk p.handled p.destroyed
  | _ => exact ⟨h.event, h.popped, h.worker⟩

end Step

/-- The index of a worker that could not be spawned is gone for the rest of the run. -/
theorem failed_spawn_is_final (threadC : ℕ) (junk : ℕ → ℕ → UInt8) (p : Pool)
    (hreach : Reachable poolStep (initPool threadC junk) p) (act : PoolAct) (i : ℕ) (hfails : SpawnFails p act i) (p' : Pool)
    (hstep : poolStep p act = some p') (p'' : Pool) (hlater : Reachable poolStep p' p'') :
    ¬Accounted p'' i := by
  obtain ⟨⟨hp, -⟩, -⟩ := poolInv_of_reachable hreach
  have he := poolStep_effect hp.stkOk hstep
  have hinv : PoolInv p'' ∧ Lost p'' i := by
    refine reachable_preserves (fun q => PoolInv q ∧ Lost q i) ?_ ⟨hp.effect he, lost_of_spawnFails hp he hfails⟩ hlater
    rintro q act' q' ⟨hq, hlost⟩ hstep'
    have he' := poolStep_effect hq.stkOk hstep'
    exact ⟨hq.effect he', hlost.effect hq he'⟩
  exact hinv.2.not_accounted hinv.1

/-- No spawn fails, and while the server runs no step is one of the two orders that lose a packet. -/
def SpawnsStep (p : Pool) (act : PoolAct) : Prop :=
  (∀ i, ¬SpawnFails p act i) ∧ (p.stopEl = true ∨ BenignStep p act)

lemma stopEl_iff {p p' : Pool} {act : PoolAct} (he : PoolEffect p act p') :
    p'.stopEl = true ↔ p.stopEl = true ∨ act = .interrupt := by
  by_cases hact : act = .interrupt
  · subst hact
    cases he with
    | interrupt => simp
  · simp [poolEffect_stopEl he hact, hact]

/-- Along a run every failed spawn is undone and every index stays available exactly when no spawn fails
and the steps are benign. -/
theorem spawns_restore_iff (threadC : ℕ) (junk : ℕ → ℕ → UInt8) (acts : List PoolAct) (p : Pool)
    (hrun : run poolStep (initPool threadC junk) acts = some p) :
    (EachStep poolStep SpawnRestores (initPool threadC junk) acts ∧
      Always poolStep Available (initPool threadC junk) acts) ↔
      EachStep poolStep SpawnsStep (initPool threadC junk) acts := by
  have hinit : PoolInv (initPool threadC junk) ∧ TicketInv (initPool threadC junk) :=
    ⟨PoolInv.init threadC junk, TicketInv.init threadC junk⟩
  have hinv : ∀ q act q', True → PoolInv q ∧ TicketInv q → poolStep q act = some q' → PoolInv q' ∧ TicketInv q' := by
    rintro q act q' - ⟨hp, ht⟩ hstep
    have he := poolStep_effect hp.stkOk hstep
    exact ⟨hp.effect he, ht.effect hp he⟩
  unfold SpawnsStep
  rw [eachStep_and]
  constructor
  · rintro ⟨hrestores, havailable⟩
    constructor
    · refine eachStep_imp hinv ?_ (fun _ _ => trivial) hinit hrun hrestores
      rintro q act q' - ⟨hp, -⟩ hstep hrestore i hfails
      have hidle := (hrestore i q' hfails hstep).idle
      rw [(lost_of_spawnFails hp (poolStep_effect hp.stkOk hstep) hfails).event] at hidle
      cases hidle
    · refine eachStep_of_always hinv ?_ (fun _ _ => trivial) hinit hrun havailable
      rintro q act q' - ⟨hp, -⟩ - hstep hgood
      have he := poolStep_effect hp.stkOk hstep
      obtain hstop | hindices := hgood
      · obtain hstop | rfl := (stopEl_iff he).mp hstop
        · exact .inl hstop
        · exact .inr trivial
      · exact .inr (benign_of_accounted hp he hindices)
  · rintro ⟨hspawns, hbenign⟩
    constructor
    · refine eachStep_imp hinv ?_ (fun _ _ => trivial) hinit hrun hspawns
      exact fun q act q' _ _ _ hspawn i _ hfails => absurd hfails (hspawn i)
    · have hsecure : Always poolStep (fun q => q.stopEl = true ∨ Secure q) (initPool threadC junk) acts := by
        refine always_of_eachStep hinv ?_ (fun _ _ => trivial) hinit (.inr (Secure.init threadC junk)) hrun
          (eachStep_and.mpr ⟨hspawns, hbenign⟩)
        rintro q act q' - ⟨hp, ht⟩ hgood hstep ⟨hspawn, hben⟩
        have he := poolStep_effect hp.stkOk hstep
        by_cases hstop : q'.stopEl = true
        · exact .inl hstop
        · rw [stopEl_iff he, not_or, Bool.not_eq_true] at hstop
          simp only [hstop.1, Bool.false_eq_true, false_or] at hgood hben
          exact .inr (hgood.effect hp ht hstop.1 hspawn hstop.2 hben he)
      exact always_mono (fun q hq => hq.imp_right Secure.indices) hsecure

theorem spawns_restore_oneRun : Always poolStep Available (initPool 1 (fun _ _ => 0)) oneRun := by
  refine ((spawns_restore_iff 1 (fun _ _ => 0) oneRun _ rfl).mpr ?_).2
  have hspawn : ∀ (q : Pool) (act : PoolAct), QuietAct act → BenignStep q act → SpawnsStep q act :=
    fun q act hquiet hben => ⟨hquiet.spawns, .inr hben⟩
  refine ⟨hspawn _ _ trivial trivial, fun q hq => ⟨hspawn _ _ rfl ?_, fun q' _ => ⟨hspawn _ _ trivial trivial, fun _ _ => trivial⟩⟩⟩
  obtain rfl := Option.some_inj.mp hq
  intro i tid _ hlv
  cases hlv

/-- The only worker cannot be created. -/
def failedRun : List PoolAct := [.submitEvent 0 (Buf.fresh (fun _ => 0)) none, .submitToThread EAGAIN.toNat]

theorem failed_spawn_loses_index : ∃ p, run poolStep (initPool 1 (fun _ _ => 0)) failedRun = some p ∧
    0 ∉ p.threadStk.toList ∧ (p.threads 0).hasEvent = true ∧ ¬Available p := by
  refine ⟨_, rfl, by decide, rfl, ?_⟩
  rintro (hstop | hindices)
  · cases hstop
  · obtain hstk | hpop | ⟨-, t, w, ht, -⟩ | ⟨t, ht⟩ := hindices 0 (by decide)
    · exact absurd hstk (by decide)
    · cases hpop
    · cases ht
    · cases ht

end GNUWeebBot.Proofs
