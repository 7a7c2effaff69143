import Mathlib.Data.List.Basic
import Mathlib.Tactic.Common

/-!
# A log that several parties write

Each entry carries the key of its party. What one party has written is a list of its own, and a position in the log is
a position in that list.
-/

namespace Interleave

section FilterMap

variable {α β : Type} (f : α → Option β)

/-- What is kept of an entry has in front of it what is kept of the entries in front of it. -/
lemma filterMap_at {l : List α} {i : ℕ} {a : α} {b : β} (hi : l[i]? = some a) (hf : f a = some b) :
    (l.filterMap f)[((l.take i).filterMap f).length]? = some b ∧
      (l.filterMap f).take ((l.take i).filterMap f).length = (l.take i).filterMap f := by
  have hsplit : l.filterMap f = (l.take i).filterMap f ++ b :: (l.drop (i + 1)).filterMap f := by
    obtain ⟨hlt, rfl⟩ := List.getElem?_eq_some_iff.mp hi
    calc l.filterMap f
      _ = (l.take i ++ l.drop i).filterMap f := by rw [List.take_append_drop]
      _ = (l.take i).filterMap f ++ (l[i] :: l.drop (i + 1)).filterMap f := by
        rw [List.filterMap_append, List.drop_eq_getElem_cons hlt]
      _ = (l.take i).filterMap f ++ b :: (l.drop (i + 1)).filterMap f := by rw [List.filterMap_cons_some hf]
  rw [hsplit]
  constructor
  · rw [List.getElem?_append_right (Nat.le_refl _), Nat.sub_self]
    rfl
  · exact List.take_left

end FilterMap

variable {κ β : Type} [DecidableEq κ]

/-- What the party of a key has written. -/
def ofKey (k : κ) (log : List (κ × β)) : List β := log.filterMap (fun e => if e.1 = k then some e.2 else none)

variable {log : List (κ × β)} {k k' : κ}

@[simp] lemma ofKey_nil : ofKey k ([] : List (κ × β)) = [] := rfl

lemma ofKey_own (c : β) : ofKey k (log ++ [(k, c)]) = ofKey k log ++ [c] := by
  simp only [ofKey, List.filterMap_append, List.filterMap_cons, List.filterMap_nil, if_true]

lemma ofKey_other (c : β) (hne : k' ≠ k) : ofKey k (log ++ [(k', c)]) = ofKey k log := by
  simp only [ofKey, List.filterMap_append, List.filterMap_cons, List.filterMap_nil, if_neg hne, List.append_nil]

lemma ofKey_at {i : ℕ} {c : β} (hi : log[i]? = some (k, c)) :
    (ofKey k log)[(ofKey k (log.take i)).length]? = some c ∧
      (ofKey k log).take (ofKey k (log.take i)).length = ofKey k (log.take i) :=
  filterMap_at _ hi (if_pos rfl)

end Interleave
