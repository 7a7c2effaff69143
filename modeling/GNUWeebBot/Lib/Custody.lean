import Mathlib.Data.List.Nodup
import Mathlib.Logic.ExistsUnique
import Mathlib.Logic.Function.Basic
import Mathlib.Tactic.Common

/-!
# Tokens that wait in a queue and are then held in a slot

A token enters the queue at one end and leaves it at the other, into a slot that is free. A slot frees its token, or it
loses it. Every token that has entered is in exactly one place, and tokens leave in the order in which they came.
-/

structure Custody (ι τ : Type) where
  entered : List τ
  left : List τ
  queue : List τ
  held : ι → Option τ
  freed : List τ
  lost : List τ

namespace Custody

inductive Op (ι τ : Type)
  | put (t : τ)
  | take (i : ι)
  | free (i : ι)
  | lose (i : ι)

inductive Place (ι : Type)
  | queue
  | slot (i : ι)
  | freed
  | lost

variable {ι τ : Type}

def start : Custody ι τ := ⟨[], [], [], fun _ => none, [], []⟩

/-- The token is in the place. -/
def At (c : Custody ι τ) (t : τ) : Place ι → Prop
  | .queue => t ∈ c.queue
  | .slot i => c.held i = some t
  | .freed => t ∈ c.freed
  | .lost => t ∈ c.lost

structure Ok (c : Custody ι τ) : Prop where
  order : c.entered = c.left ++ c.queue
  nodup : c.entered.Nodup
  somewhere : ∀ t, t ∈ c.entered ↔ ∃ place, c.At t place
  nowhereElse : ∀ t place place', c.At t place → c.At t place' → place = place'
  freedNodup : c.freed.Nodup
  lostNodup : c.lost.Nodup

variable {c c' : Custody ι τ} {t : τ}

theorem Ok.unique_place (h : Ok c) (t : τ) : t ∈ c.entered ↔ ∃! place, c.At t place := by
  rw [h.somewhere t]
  constructor
  · rintro ⟨place, hat⟩
    exact ⟨place, hat, fun place' hat' => h.nowhereElse t place' place hat' hat⟩
  · exact ExistsUnique.exists

lemma ok_start : Ok (start : Custody ι τ) where
  order := rfl
  nodup := List.nodup_nil
  somewhere := by
    intro t
    refine ⟨fun h => absurd h List.not_mem_nil, ?_⟩
    rintro ⟨_ | _ | _ | _, hat⟩
    · exact hat
    · cases hat
    · exact hat
    · exact hat
  nowhereElse := by
    rintro t (_ | _ | _ | _) place' hat - <;> cases hat
  freedNodup := List.nodup_nil
  lostNodup := List.nodup_nil

/-- What waits can be freed as it is. -/
lemma Ok.freed_append_queue (h : Ok c) : (c.freed ++ c.queue).Nodup := by
  apply List.nodup_append'.mpr
  refine ⟨h.freedNodup, ?_, ?_⟩
  · have hnodup := h.nodup
    rw [h.order] at hnodup
    exact (List.nodup_append'.mp hnodup).2.1
  · intro t hfreed hqueue
    have hplace := h.nowhereElse t .freed .queue hfreed hqueue
    cases hplace

/-- One token goes from its place to another one. -/
lemma Ok.move (h : Ok c) (there : Place ι) (ht : t ∈ c.entered) (hentered : c'.entered = c.entered)
    (horder : c'.left ++ c'.queue = c.left ++ c.queue) (hfreed : c'.freed.Nodup) (hlost : c'.lost.Nodup)
    (hself : ∀ place, c'.At t place ↔ place = there) (hother : ∀ t' ≠ t, ∀ place, c'.At t' place ↔ c.At t' place) :
    Ok c' where
  order := by rw [hentered, horder, h.order]
  nodup := hentered ▸ h.nodup
  somewhere := by
    intro t'
    rw [hentered]
    by_cases heq : t' = t
    · subst heq
      exact ⟨fun _ => ⟨there, (hself there).mpr rfl⟩, fun _ => ht⟩
    · simp only [hother t' heq]
      exact h.somewhere t'
  nowhereElse := by
    intro t' place place' hat hat'
    by_cases heq : t' = t
    · subst heq
      exact ((hself place).mp hat).trans ((hself place').mp hat').symm
    · rw [hother t' heq] at hat hat'
      exact h.nowhereElse t' place place' hat hat'
  freedNodup := hfreed
  lostNodup := hlost

/-- A token that has not been there before. -/
lemma Ok.put (h : Ok c) (hnew : t ∉ c.entered) : Ok { c with entered := c.entered ++ [t], queue := c.queue ++ [t] } := by
  have hnowhere : ∀ place, ¬c.At t place := fun place hat => hnew ((h.somewhere t).mpr ⟨place, hat⟩)
  have hat : ∀ t' place, At { c with entered := c.entered ++ [t], queue := c.queue ++ [t] } t' place ↔
      c.At t' place ∨ (t' = t ∧ place = .queue) := by
    intro t' place
    cases place with
    | queue => simp only [At, List.mem_append, List.mem_singleton, and_true]
    | slot i => simp only [At, reduceCtorEq, and_false, or_false]
    | freed => simp only [At, reduceCtorEq, and_false, or_false]
    | lost => simp only [At, reduceCtorEq, and_false, or_false]
  refine { h with order := ?order, nodup := ?nodup, somewhere := ?somewhere, nowhereElse := ?nowhereElse }
  case order => rw [h.order, List.append_assoc]
  case nodup =>
    rw [← List.concat_eq_append, List.nodup_concat]
    exact ⟨hnew, h.nodup⟩
  case somewhere =>
    intro t'
    simp only [hat, List.mem_append, List.mem_singleton, h.somewhere t', exists_or]
    refine or_congr_right ⟨fun heq => ⟨.queue, heq, rfl⟩, fun ⟨_, heq, _⟩ => heq⟩
  case nowhereElse =>
    intro t' place place' hplace hplace'
    rw [hat] at hplace hplace'
    rcases hplace with hplace | ⟨rfl, rfl⟩
    · rcases hplace' with hplace' | ⟨rfl, rfl⟩
      · exact h.nowhereElse t' place place' hplace hplace'
      · exact absurd hplace (hnowhere place)
    · rcases hplace' with hplace' | ⟨-, rfl⟩
      · exact absurd hplace' (hnowhere place')
      · rfl

variable [DecidableEq ι]

def apply (c : Custody ι τ) : Op ι τ → Option (Custody ι τ)
  | .put t => some { c with entered := c.entered ++ [t], queue := c.queue ++ [t] }
  | .take i =>
    match c.queue, c.held i with
    | t :: queue, none => some { c with left := c.left ++ [t], queue, held := Function.update c.held i (some t) }
    | _, _ => none
  | .free i => (c.held i).map fun t => { c with held := Function.update c.held i none, freed := t :: c.freed }
  | .lose i => (c.held i).map fun t => { c with held := Function.update c.held i none, lost := t :: c.lost }

/-- The first token goes into a slot that holds none. -/
lemma Ok.take (h : Ok c) {i : ι} {queue : List τ} (hqueue : c.queue = t :: queue) (hfree : c.held i = none) :
    Ok { c with left := c.left ++ [t], queue, held := Function.update c.held i (some t) } := by
  have hin : c.At t .queue := by
    change t ∈ c.queue
    rw [hqueue]
    exact List.mem_cons_self
  have hentered : t ∈ c.entered := (h.somewhere t).mpr ⟨_, hin⟩
  have honly : ∀ place, c.At t place → place = .queue := fun place hat => h.nowhereElse t place .queue hat hin
  have hgone : t ∉ queue := by
    have hnodup := h.nodup
    rw [h.order, hqueue] at hnodup
    exact (List.nodup_cons.mp (List.Nodup.of_append_right hnodup)).1
  refine h.move (.slot i) hentered rfl (by simp only [hqueue, List.append_assoc, List.singleton_append]) h.freedNodup h.lostNodup
    ?_ ?_
  · intro place
    cases place with
    | queue => simp only [At, hgone, reduceCtorEq]
    | slot j =>
      simp only [At, Place.slot.injEq]
      by_cases hj : j = i
      · simp only [hj, Function.update_self]
      · simp only [Function.update_of_ne hj, hj, iff_false]
        exact fun hat => by cases honly (.slot j) hat
    | freed =>
      simp only [At, reduceCtorEq, iff_false]
      exact fun hat => by cases honly .freed hat
    | lost =>
      simp only [At, reduceCtorEq, iff_false]
      exact fun hat => by cases honly .lost hat
  · intro t' hne place
    cases place with
    | queue => simp only [At, hqueue, List.mem_cons, hne, false_or]
    | slot j =>
      simp only [At]
      by_cases hj : j = i
      · simp only [hj, Function.update_self, hfree, Option.some_inj, hne.symm, reduceCtorEq]
      · rw [Function.update_of_ne hj]
    | freed => exact Iff.rfl
    | lost => exact Iff.rfl

/-- A slot gives its token away, to where it stays. -/
lemma Ok.release (h : Ok c) {i : ι} (hheld : c.held i = some t) :
    Ok { c with held := Function.update c.held i none, freed := t :: c.freed } ∧
      Ok { c with held := Function.update c.held i none, lost := t :: c.lost } := by
  have hin : c.At t (.slot i) := hheld
  have hentered : t ∈ c.entered := (h.somewhere t).mpr ⟨_, hin⟩
  have honly : ∀ place, c.At t place → place = .slot i := fun place hat => h.nowhereElse t place _ hat hin
  have hqueue : t ∉ c.queue := fun hat => by cases honly .queue hat
  have hfreed : t ∉ c.freed := fun hat => by cases honly .freed hat
  have hlost : t ∉ c.lost := fun hat => by cases honly .lost hat
  have hslot : ∀ j, Function.update c.held i none j ≠ some t := by
    intro j hat
    by_cases hj : j = i
    · rw [hj, Function.update_self] at hat
      cases hat
    · rw [Function.update_of_ne hj] at hat
      exact hj (Place.slot.inj (honly (.slot j) hat))
  have hothers : ∀ t' ≠ t, ∀ j, Function.update c.held i none j = some t' ↔ c.held j = some t' := by
    intro t' hne j
    by_cases hj : j = i
    · simp only [hj, Function.update_self, hheld, Option.some_inj, hne.symm, reduceCtorEq]
    · rw [Function.update_of_ne hj]
  constructor
  · refine h.move .freed hentered rfl rfl (List.nodup_cons.mpr ⟨hfreed, h.freedNodup⟩) h.lostNodup ?_ ?_
    · intro place
      cases place <;> simp only [At, hqueue, hslot, hlost, List.mem_cons, true_or, reduceCtorEq]
    · intro t' hne place
      cases place with
      | queue => exact Iff.rfl
      | slot j => exact hothers t' hne j
      | freed => simp only [At, List.mem_cons, hne, false_or]
      | lost => exact Iff.rfl
  · refine h.move .lost hentered rfl rfl h.freedNodup (List.nodup_cons.mpr ⟨hlost, h.lostNodup⟩) ?_ ?_
    · intro place
      cases place <;> simp only [At, hqueue, hslot, hfreed, List.mem_cons, true_or, reduceCtorEq]
    · intro t' hne place
      cases place with
      | queue => exact Iff.rfl
      | slot j => exact hothers t' hne j
      | freed => exact Iff.rfl
      | lost => simp only [At, List.mem_cons, hne, false_or]

end Custody
