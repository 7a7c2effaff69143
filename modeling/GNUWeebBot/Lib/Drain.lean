import GNUWeebBot.Lib.Transition
import Mathlib.Algebra.BigOperators.Fin
import Mathlib.Algebra.Order.BigOperators.Group.Finset

/-!
# Systems that come to rest

A number of the state that no allowed step raises and that every busy step lowers bounds how many busy
steps a run has. If a busy step can be taken as long as the system is not done, every run can be
continued to a state in which it is.
-/

namespace Transition

variable {σ α : Type*} {step : σ → α → Option σ}

/-- The busy steps of a run. -/
def busySteps (step : σ → α → Option σ) (busy : σ → α → Bool) : σ → List α → ℕ
  | _, [] => 0
  | s, a :: acts => (if busy s a then 1 else 0) + ((step s a).map (fun s' => busySteps step busy s' acts)).getD 0

/-- `work` counts down to `Done`. -/
structure Drains (step : σ → α → Option σ) (Inv Done : σ → Prop) (allowed : σ → α → Prop) (busy : σ → α → Bool)
    (work : σ → ℕ) : Prop where
  inv : ∀ s a s', Inv s → allowed s a → step s a = some s' → Inv s'
  lowers : ∀ s a s', Inv s → allowed s a → busy s a = true → step s a = some s' → work s' < work s
  keeps : ∀ s a s', Inv s → allowed s a → busy s a = false → step s a = some s' → work s' ≤ work s
  progress : ∀ s, Inv s → ¬Done s → ∃ a s', allowed s a ∧ busy s a = true ∧ step s a = some s'

/-- Where being busy does not depend on the state. -/
lemma busySteps_const {busy : α → Bool} {s t : σ} {acts : List α} (hrun : run step s acts = some t) :
    busySteps step (fun _ => busy) s acts = acts.countP busy := by
  induction acts generalizing s with
  | nil => rfl
  | cons a acts ih =>
    obtain ⟨s', hstep, hrest⟩ := run_cons.mp hrun
    rw [busySteps, hstep, Option.map_some, Option.getD_some, ih hrest, List.countP_cons, Nat.add_comm]

namespace Drains

variable {Inv Done : σ → Prop} {allowed : σ → α → Prop} {busy : σ → α → Bool} {work : σ → ℕ}

lemma step_le (h : Drains step Inv Done allowed busy work) {s s' : σ} {a : α} (hs : Inv s) (ha : allowed s a)
    (hstep : step s a = some s') : (if busy s a then 1 else 0) + work s' ≤ work s := by
  cases hb : busy s a with
  | true =>
    have hlt := h.lowers s a s' hs ha hb hstep
    simp only [if_true]
    omega
  | false =>
    have hle := h.keeps s a s' hs ha hb hstep
    simp only [Bool.false_eq_true, if_false]
    omega

/-- The busy steps of a run are at most as many as the work at its start. -/
theorem busySteps_le (h : Drains step Inv Done allowed busy work) {s t : σ} {acts : List α} (hs : Inv s)
    (hall : EachStep step allowed s acts) (hrun : run step s acts = some t) :
    Inv t ∧ busySteps step busy s acts + work t ≤ work s := by
  induction acts generalizing s with
  | nil =>
    rw [run_nil, Option.some_inj] at hrun
    subst hrun
    exact ⟨hs, by simp [busySteps]⟩
  | cons a acts ih =>
    obtain ⟨s', hstep, hrest⟩ := run_cons.mp hrun
    have hone := h.step_le hs hall.1 hstep
    obtain ⟨ht, hle⟩ := ih (h.inv s a s' hs hall.1 hstep) (hall.2 s' hstep) hrest
    refine ⟨ht, ?_⟩
    rw [busySteps, hstep, Option.map_some, Option.getD_some]
    omega

/-- There is a way to the end. -/
theorem arrives (h : Drains step Inv Done allowed busy work) {s : σ} (hs : Inv s) :
    ∃ acts t, run step s acts = some t ∧ Done t ∧ Inv t ∧ EachStep step allowed s acts := by
  induction hn : work s using Nat.strong_induction_on generalizing s with
  | h n ih =>
    subst hn
    by_cases hdone : Done s
    · exact ⟨[], s, rfl, hdone, hs, trivial⟩
    · obtain ⟨a, s', ha, hb, hstep⟩ := h.progress s hs hdone
      have hs' := h.inv s a s' hs ha hstep
      obtain ⟨acts, t, hrun, ht, hinv, hall⟩ := ih _ (h.lowers s a s' hs ha hb hstep) hs' rfl
      refine ⟨a :: acts, t, run_cons.mpr ⟨s', hstep, hrun⟩, ht, hinv, ha, ?_⟩
      intro s'' hs''
      rw [hstep, Option.some_inj] at hs''
      exact hs'' ▸ hall

end Drains

lemma eachStep_of_forall {C : σ → α → Prop} (h : ∀ s a, C s a) (s : σ) (acts : List α) : EachStep step C s acts := by
  induction acts generalizing s with
  | nil => trivial
  | cons a acts ih => exact ⟨h s a, fun s' _ => ih s'⟩

/-! ### Sums of which one term changes -/

lemma sum_range_change {f g : ℕ → ℕ} {n k : ℕ} (hk : k < n) (h : ∀ t, t ≠ k → g t = f t) :
    ∑ t ∈ Finset.range n, g t + f k = ∑ t ∈ Finset.range n, f t + g k := by
  have hmem : k ∈ Finset.range n := Finset.mem_range.mpr hk
  rw [← Finset.sum_erase_add _ g hmem, ← Finset.sum_erase_add _ f hmem]
  have herase : ∑ t ∈ (Finset.range n).erase k, g t = ∑ t ∈ (Finset.range n).erase k, f t := by
    apply Finset.sum_congr rfl
    intro t ht
    exact h t (Finset.ne_of_mem_erase ht)
  rw [herase]
  omega

end Transition
