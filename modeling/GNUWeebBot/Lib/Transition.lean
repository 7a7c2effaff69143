import Mathlib.Tactic.Common

/-!
# Runs of a partial step function

A system is a function `step : σ → α → Option σ`; `step s a = none` means that the
action `a` is not enabled in `s`. Nondeterminism is carried by the action. This file
has the invariant rule for runs, and the rule by which a state property holds along a
run exactly when every step of the run meets a condition on the state before it.
-/

namespace Transition

variable {σ α : Type*} (step : σ → α → Option σ)

/-- The state after the actions `acts`, if each of them is enabled when its turn comes. -/
def run : σ → List α → Option σ
  | s, [] => some s
  | s, a :: acts => (step s a).bind (fun s' => run s' acts)

/-- `P` holds in every state the run visits, its first state included. -/
def Always (P : σ → Prop) : σ → List α → Prop
  | s, [] => P s
  | s, a :: acts => P s ∧ ∀ s', step s a = some s' → Always P s' acts

/-- `C` holds of every step of the run: of its action and the state before it. -/
def EachStep (C : σ → α → Prop) : σ → List α → Prop
  | _, [] => True
  | s, a :: acts => C s a ∧ ∀ s', step s a = some s' → EachStep C s' acts

/-- A state some run from `s₀` ends in. -/
def Reachable (s₀ s : σ) : Prop := ∃ acts, run step s₀ acts = some s

variable {step}

@[simp] lemma run_nil (s : σ) : run step s [] = some s := rfl

lemma run_cons {s t : σ} {a : α} {acts : List α} :
    run step s (a :: acts) = some t ↔ ∃ s', step s a = some s' ∧ run step s' acts = some t := by
  simp only [run, Option.bind_eq_some_iff]

lemma run_append {s t : σ} {as bs : List α} :
    run step s (as ++ bs) = some t ↔ ∃ s', run step s as = some s' ∧ run step s' bs = some t := by
  induction as generalizing s with
  | nil => simp
  | cons a as ih =>
    simp only [List.cons_append, run_cons, ih]
    constructor
    · rintro ⟨u, hu, v, hv, ht⟩
      exact ⟨v, ⟨u, hu, hv⟩, ht⟩
    · rintro ⟨v, ⟨u, hu, hv⟩, ht⟩
      exact ⟨u, hu, v, hv, ht⟩

/-- The invariant rule, for runs whose actions all lie in `A`. -/
theorem run_preserves {Inv : σ → Prop} {A : α → Prop}
    (hstep : ∀ s a s', A a → Inv s → step s a = some s' → Inv s')
    {s t : σ} {acts : List α} (hA : ∀ a ∈ acts, A a) (hs : Inv s)
    (hrun : run step s acts = some t) : Inv t := by
  induction acts generalizing s with
  | nil =>
    rw [run_nil, Option.some_inj] at hrun
    exact hrun ▸ hs
  | cons a acts ih =>
    obtain ⟨s', ha, hrest⟩ := run_cons.mp hrun
    have hs' : Inv s' := hstep s a s' (hA a List.mem_cons_self) hs ha
    exact ih (fun b hb => hA b (List.mem_cons_of_mem a hb)) hs' hrest

theorem reachable_preserves (Inv : σ → Prop)
    (hstep : ∀ s a s', Inv s → step s a = some s' → Inv s')
    {s t : σ} (hs : Inv s) (ht : Reachable step s t) : Inv t := by
  obtain ⟨acts, hrun⟩ := ht
  exact run_preserves (A := fun _ => True) (fun s a s' _ => hstep s a s') (fun _ _ => trivial) hs hrun

section Along

variable {Inv Good : σ → Prop} {A : α → Prop} {C : σ → α → Prop}

/-- Steps that meet `C` keep the run in good states. -/
theorem always_of_eachStep (hinv : ∀ s a s', A a → Inv s → step s a = some s' → Inv s')
    (hgood : ∀ s a s', A a → Inv s → Good s → step s a = some s' → C s a → Good s')
    {s t : σ} {acts : List α} (hA : ∀ a ∈ acts, A a) (hs : Inv s) (hg : Good s)
    (hrun : run step s acts = some t) (hC : EachStep step C s acts) : Always step Good s acts := by
  induction acts generalizing s with
  | nil => exact hg
  | cons a acts ih =>
    obtain ⟨s', ha, hrest⟩ := run_cons.mp hrun
    have haA := hA a List.mem_cons_self
    have htailA : ∀ b ∈ acts, A b := fun b hb => hA b (List.mem_cons_of_mem a hb)
    simp only [Always, EachStep, ha, Option.some_inj, forall_eq'] at hC ⊢
    exact ⟨hg, ih htailA (hinv s a s' haA hs ha) (hgood s a s' haA hs hg ha hC.1) hrest hC.2⟩

/-- A run that visits good states only has steps that meet `C`. -/
theorem eachStep_of_always (hinv : ∀ s a s', A a → Inv s → step s a = some s' → Inv s')
    (hstep : ∀ s a s', A a → Inv s → Good s → step s a = some s' → Good s' → C s a)
    {s t : σ} {acts : List α} (hA : ∀ a ∈ acts, A a) (hs : Inv s)
    (hrun : run step s acts = some t) (hg : Always step Good s acts) : EachStep step C s acts := by
  induction acts generalizing s with
  | nil => trivial
  | cons a acts ih =>
    obtain ⟨s', ha, hrest⟩ := run_cons.mp hrun
    have haA := hA a List.mem_cons_self
    have htailA : ∀ b ∈ acts, A b := fun b hb => hA b (List.mem_cons_of_mem a hb)
    simp only [Always, EachStep, ha, Option.some_inj, forall_eq'] at hg ⊢
    have hg' : Good s' := by
      cases acts with
      | nil => exact hg.2
      | cons b bs => exact hg.2.1
    exact ⟨hstep s a s' haA hs hg.1 ha hg', ih htailA (hinv s a s' haA hs ha) hrest hg.2⟩

/-- If, under an invariant, a step leads from a good state to a good one exactly when it
meets `C`, then a run visits good states only exactly when all its steps meet `C`. -/
theorem always_iff_eachStep (Inv : σ → Prop)
    (hinv : ∀ s a s', A a → Inv s → step s a = some s' → Inv s')
    (hgood : ∀ s a s', A a → Inv s → Good s → step s a = some s' → (Good s' ↔ C s a))
    {s t : σ} {acts : List α} (hA : ∀ a ∈ acts, A a) (hs : Inv s) (hg : Good s)
    (hrun : run step s acts = some t) :
    Always step Good s acts ↔ EachStep step C s acts := by
  constructor
  · exact eachStep_of_always hinv (fun s a s' ha hi hg hs => (hgood s a s' ha hi hg hs).mp) hA hs hrun
  · exact always_of_eachStep hinv (fun s a s' ha hi hg hs => (hgood s a s' ha hi hg hs).mpr) hA hs hg hrun

/-- The same with every action allowed. -/
theorem always_iff_eachStep_of_inv (Inv : σ → Prop) (hinv : ∀ s a s', Inv s → step s a = some s' → Inv s')
    (hgood : ∀ s a s', Inv s → Good s → step s a = some s' → (Good s' ↔ C s a))
    {s t : σ} {acts : List α} (hs : Inv s) (hg : Good s) (hrun : run step s acts = some t) :
    Always step Good s acts ↔ EachStep step C s acts :=
  always_iff_eachStep Inv (A := fun _ => True) (fun s a s' _ => hinv s a s') (fun s a s' _ => hgood s a s')
    (fun _ _ => trivial) hs hg hrun

/-- Another condition that the steps meet under the invariant. -/
theorem eachStep_imp {D : σ → α → Prop} (hinv : ∀ s a s', A a → Inv s → step s a = some s' → Inv s')
    (hstep : ∀ s a s', A a → Inv s → step s a = some s' → C s a → D s a)
    {s t : σ} {acts : List α} (hA : ∀ a ∈ acts, A a) (hs : Inv s)
    (hrun : run step s acts = some t) (hC : EachStep step C s acts) : EachStep step D s acts := by
  induction acts generalizing s with
  | nil => trivial
  | cons a acts ih =>
    obtain ⟨s', ha, hrest⟩ := run_cons.mp hrun
    have haA := hA a List.mem_cons_self
    have htailA : ∀ b ∈ acts, A b := fun b hb => hA b (List.mem_cons_of_mem a hb)
    simp only [EachStep, ha, Option.some_inj, forall_eq'] at hC ⊢
    exact ⟨hstep s a s' haA hs ha hC.1, ih htailA (hinv s a s' haA hs ha) hrest hC.2⟩

/-- Two conditions that say the same of each step under an invariant, which is kept by the
steps that meet one of them. -/
theorem eachStep_iff {D : σ → α → Prop} (hinv : ∀ s a s', Inv s → step s a = some s' → C s a → Inv s')
    (hiff : ∀ s a s', Inv s → step s a = some s' → (D s a ↔ C s a))
    {s t : σ} {acts : List α} (hs : Inv s) (hrun : run step s acts = some t) :
    EachStep step D s acts ↔ EachStep step C s acts := by
  induction acts generalizing s with
  | nil => exact Iff.rfl
  | cons a acts ih =>
    obtain ⟨s', ha, hrest⟩ := run_cons.mp hrun
    simp only [EachStep, ha, Option.some_inj, forall_eq']
    rw [hiff s a s' hs ha]
    constructor
    · exact fun h => ⟨h.1, (ih (hinv s a s' hs ha h.1) hrest).mp h.2⟩
    · exact fun h => ⟨h.1, (ih (hinv s a s' hs ha h.1) hrest).mpr h.2⟩

end Along

lemma eachStep_and {C D : σ → α → Prop} {s : σ} {acts : List α} :
    EachStep step (fun s a => C s a ∧ D s a) s acts ↔ EachStep step C s acts ∧ EachStep step D s acts := by
  induction acts generalizing s with
  | nil => simp [EachStep]
  | cons a acts ih =>
    simp only [EachStep, ih]
    constructor
    · exact fun h => ⟨⟨h.1.1, fun s' hs => (h.2 s' hs).1⟩, ⟨h.1.2, fun s' hs => (h.2 s' hs).2⟩⟩
    · exact fun h => ⟨⟨h.1.1, h.2.1⟩, fun s' hs => ⟨h.1.2 s' hs, h.2.2 s' hs⟩⟩

lemma always_mono {P Q : σ → Prop} (hPQ : ∀ s, P s → Q s) {s : σ} {acts : List α} (h : Always step P s acts) :
    Always step Q s acts := by
  induction acts generalizing s with
  | nil => exact hPQ s h
  | cons a acts ih => exact ⟨hPQ s h.1, fun s' hs => ih (h.2 s' hs)⟩

end Transition
