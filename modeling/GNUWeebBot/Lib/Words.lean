import Mathlib.Data.List.TakeWhile
import Mathlib.Tactic.Common

/-!
# Words

A word is the part of a text in front of the first element that ends it. It is determined by where
the text is cut: all before the cut are of the word, and the one behind it is not.
-/

namespace Words

lemma forall_byte {P : UInt8 → Prop} (h : ∀ n : Fin 256, P (UInt8.ofNat n)) (c : UInt8) : P c := by
  simpa using h ⟨c.toNat, c.toNat_lt⟩

section Cut

variable {α : Type} {p : α → Bool} {word rest : List α}

lemma takeWhile_append (hword : ∀ c ∈ word, p c = true) (hrest : ∀ c ∈ rest.head?, p c = false) :
    (word ++ rest).takeWhile p = word := by
  rw [List.takeWhile_append_of_pos hword]
  cases rest with
  | nil => exact List.append_nil word
  | cons c rest =>
    have hc := hrest c rfl
    rw [List.takeWhile_cons_of_neg (by rw [hc]; exact Bool.false_ne_true), List.append_nil]

lemma dropWhile_append (hword : ∀ c ∈ word, p c = true) (hrest : ∀ c ∈ rest.head?, p c = false) :
    (word ++ rest).dropWhile p = rest := by
  rw [List.dropWhile_append_of_pos hword]
  cases rest with
  | nil => rfl
  | cons c rest =>
    have hc := hrest c rfl
    rw [List.dropWhile_cons_of_neg (by rw [hc]; exact Bool.false_ne_true)]

lemma head?_dropWhile (p : α → Bool) (text : List α) : ∀ c ∈ (text.dropWhile p).head?, p c = false := by
  intro c hc
  have hnot := List.head?_dropWhile_not p text
  rw [hc] at hnot
  simpa using hnot

/-- Where a text is cut. -/
lemma exists_cut (p : α → Bool) (text : List α) :
    ∃ word, (∀ c ∈ word, p c = true) ∧ text = word ++ text.dropWhile p ∧ ∀ c ∈ (text.dropWhile p).head?, p c = false :=
  ⟨text.takeWhile p, fun _ hc => List.mem_takeWhile_imp hc, List.takeWhile_append_dropWhile.symm, head?_dropWhile p text⟩

end Cut

end Words
