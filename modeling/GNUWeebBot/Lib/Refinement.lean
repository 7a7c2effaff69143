import GNUWeebBot.Lib.Fill

/-!
# Refinement of a specification by a program

A specification answers each operation and goes to a new abstract state. A program
refines it when each operation, from a state that represents the abstract one, goes on
without a fault, answers the same and represents the new abstract state. What holds of
one operation holds of every sequence of operations.
-/

namespace Refinement

variable {ε σ τ ι ο ρ : Type}

/-- The answers of the specification and the state it ends in. -/
def outputs (spec : τ → ι → ο × τ) : τ → List ι → List ο × τ
  | t, [] => ([], t)
  | t, i :: is =>
    let (o, t') := spec t i
    let (os, t'') := outputs spec t' is
    (o :: os, t'')

/-- Each operation is allowed in the abstract state in which its turn comes. -/
def Admissible (A : τ → ι → Prop) (spec : τ → ι → ο × τ) : τ → List ι → Prop
  | _, [] => True
  | t, i :: is => A t i ∧ Admissible A spec (spec t i).2 is

/-- `answer` tells what the program returns for an answer of the specification. -/
structure Simulates (A : τ → ι → Prop) (op : ι → Fill ε σ ρ) (spec : τ → ι → ο × τ) (answer : ο → ρ)
    (R : σ → τ → Prop) : Prop where
  step : ∀ i s t, A t i → R s t → ∃ s', op i s = .next (answer (spec t i).1) s' ∧ R s' (spec t i).2

variable {A : τ → ι → Prop} {op : ι → Fill ε σ ρ} {spec : τ → ι → ο × τ} {answer : ο → ρ} {R : σ → τ → Prop}

theorem Simulates.run (h : Simulates A op spec answer R) (is : List ι) {s : σ} {t : τ}
    (hA : Admissible A spec t is) (hR : R s t) :
    ∃ s', Fill.each op is s = .next ((outputs spec t is).1.map answer) s' ∧ R s' (outputs spec t is).2 := by
  induction is generalizing s t with
  | nil => exact ⟨s, rfl, hR⟩
  | cons i is ih =>
    obtain ⟨s', hi, hR'⟩ := h.step i s t hA.1 hR
    obtain ⟨s'', his, hR''⟩ := ih hA.2 hR'
    refine ⟨s'', ?_, hR''⟩
    rw [Fill.each, Fill.bind_of_next hi, Fill.bind_of_next his]
    rfl

/-- Programs whose operations are always allowed. -/
lemma admissible_true (spec : τ → ι → ο × τ) (t : τ) (is : List ι) : Admissible (fun _ _ => True) spec t is := by
  induction is generalizing t with
  | nil => trivial
  | cons i is ih => exact ⟨trivial, ih _⟩

end Refinement
