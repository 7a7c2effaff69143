import Mathlib.Data.List.Basic
import Mathlib.Order.Bounds.Basic
import Mathlib.Tactic.Common

/-!
# Encoding into limited space

The elements of a list are encoded one after the other, as long as the whole code of the next one
fits into what is left of the room.
-/

namespace Cut

variable {α β : Type} (enc : α → List β)

/-- How many elements are encoded. -/
def count : ℕ → List α → ℕ
  | _, [] => 0
  | room, a :: s => if (enc a).length ≤ room then count (room - (enc a).length) s + 1 else 0

/-- The code of these elements. -/
def code (room : ℕ) (s : List α) : List β := (s.take (count enc room s)).flatMap enc

/-- The element that is looked at last: the first that does not fit, or the last of all. -/
def seen (room : ℕ) (s : List α) : Option α := s[min (count enc room s) (s.length - 1)]?

/-- The length of its code. -/
def seenLength (room : ℕ) (s : List α) : ℕ := ((seen enc room s).map (fun a => (enc a).length)).getD 0

section

variable {room : ℕ} {a : α} {s : List α}

@[simp] lemma count_nil (room : ℕ) : count enc room [] = 0 := rfl

@[simp] lemma code_nil (room : ℕ) : code enc room [] = [] := rfl

@[simp] lemma seenLength_nil (room : ℕ) : seenLength enc room [] = 0 := rfl

variable {enc}

lemma count_cons_of_le (h : (enc a).length ≤ room) :
    count enc room (a :: s) = count enc (room - (enc a).length) s + 1 := if_pos h

lemma count_cons_of_lt (h : room < (enc a).length) : count enc room (a :: s) = 0 := if_neg (by omega)

lemma code_cons_of_le (h : (enc a).length ≤ room) :
    code enc room (a :: s) = enc a ++ code enc (room - (enc a).length) s := by
  rw [code, count_cons_of_le h, List.take_succ_cons, List.flatMap_cons, code]

lemma code_cons_of_lt (h : room < (enc a).length) : code enc room (a :: s) = [] := by
  rw [code, count_cons_of_lt h, List.take_zero, List.flatMap_nil]

lemma seenLength_cons_of_lt (h : room < (enc a).length) : seenLength enc room (a :: s) = (enc a).length := by
  rw [seenLength, seen, count_cons_of_lt h, Nat.zero_min]
  rfl

lemma seenLength_cons_of_le (h : (enc a).length ≤ room) :
    seenLength enc room (a :: s) = if s = [] then (enc a).length else seenLength enc (room - (enc a).length) s := by
  cases s with
  | nil => simp [seenLength, seen]
  | cons a' s =>
    have hmin : min (count enc (room - (enc a).length) (a' :: s) + 1) ((a :: a' :: s).length - 1) =
        min (count enc (room - (enc a).length) (a' :: s)) ((a' :: s).length - 1) + 1 := by
      simp only [List.length_cons]
      omega
    rw [seenLength, seen, count_cons_of_le h, hmin, List.getElem?_cons_succ, if_neg (List.cons_ne_nil _ _)]
    rfl

variable (enc) in
lemma exists_seen (room : ℕ) (hne : s ≠ []) : ∃ a, seen enc room s = some a := by
  have hpos := List.length_pos_of_ne_nil hne
  have hlt : min (count enc room s) (s.length - 1) < s.length := by omega
  exact ⟨s[min (count enc room s) (s.length - 1)], List.getElem?_eq_getElem hlt⟩

/-! ### What fits -/

variable (enc room s)

lemma count_le_length : count enc room s ≤ s.length := by
  induction s generalizing room with
  | nil => exact Nat.le_refl _
  | cons a s ih =>
    by_cases h : (enc a).length ≤ room
    · rw [count_cons_of_le h, List.length_cons]
      exact Nat.succ_le_succ (ih _)
    · rw [count_cons_of_lt (by omega)]
      exact Nat.zero_le _

lemma length_code_le : (code enc room s).length ≤ room := by
  induction s generalizing room with
  | nil => exact Nat.zero_le _
  | cons a s ih =>
    by_cases h : (enc a).length ≤ room
    · have hrest := ih (room - (enc a).length)
      rw [code_cons_of_le h, List.length_append]
      omega
    · rw [code_cons_of_lt (by omega)]
      exact Nat.zero_le _

/-- No longer prefix fits. -/
lemma le_count {k : ℕ} (hk : k ≤ s.length) (hfit : ((s.take k).flatMap enc).length ≤ room) : k ≤ count enc room s := by
  induction s generalizing room k with
  | nil => exact hk
  | cons a s ih =>
    cases k with
    | zero => exact Nat.zero_le _
    | succ k =>
      rw [List.take_succ_cons, List.flatMap_cons, List.length_append] at hfit
      rw [count_cons_of_le (by omega)]
      apply Nat.succ_le_succ
      apply ih
      · simpa using hk
      · omega

lemma isGreatest_count : IsGreatest {k | k ≤ s.length ∧ ((s.take k).flatMap enc).length ≤ room} (count enc room s) :=
  ⟨⟨count_le_length enc room s, length_code_le enc room s⟩, fun _ hk => le_count enc room s hk.1 hk.2⟩

variable {room s}

lemma code_of_le (h : (s.flatMap enc).length ≤ room) : code enc room s = s.flatMap enc := by
  have hcount := le_count enc room s (Nat.le_refl _) (by rwa [List.take_length])
  rw [code, List.take_of_length_le hcount]

variable {enc}

/-- The element that does not fit is longer than what is left. -/
lemma lt_of_count_lt (h : count enc room s < s.length) : room < (code enc room s).length + seenLength enc room s := by
  induction s generalizing room with
  | nil => cases h
  | cons a s ih =>
    by_cases ha : (enc a).length ≤ room
    · rw [count_cons_of_le ha, List.length_cons] at h
      have hs : s ≠ [] := by
        rintro rfl
        simp at h
      have hrest := ih (Nat.lt_of_succ_lt_succ h)
      rw [code_cons_of_le ha, seenLength_cons_of_le ha, if_neg hs, List.length_append]
      omega
    · rw [code_cons_of_lt (by omega), seenLength_cons_of_lt (by omega), List.length_nil]
      omega

/-- A smaller room that is still large enough. -/
lemma code_of_length_le {n : ℕ} (hlen : (code enc room s).length ≤ n) (hn : n ≤ room) :
    count enc n s = count enc room s ∧ code enc n s = code enc room s := by
  have hcount : count enc n s = count enc room s := by
    apply Nat.le_antisymm
    · exact le_count enc room s (count_le_length enc n s) (Nat.le_trans (length_code_le enc n s) hn)
    · exact le_count enc n s (count_le_length enc room s) hlen
  exact ⟨hcount, by rw [code, hcount, code]⟩

/-- A room that is filled: with one byte less the last element does not fit. -/
lemma exists_code_pred (hne : ∀ a, enc a ≠ []) (hfull : (code enc (room + 1) s).length = room + 1) :
    ∃ a, code enc (room + 1) s = code enc room s ++ enc a := by
  obtain ⟨k, hk⟩ : ∃ k, count enc (room + 1) s = k + 1 := by
    apply Nat.exists_eq_succ_of_ne_zero
    intro h
    rw [code, h, List.take_zero] at hfull
    cases hfull
  have hlt : k < s.length := by
    have hle := count_le_length enc (room + 1) s
    omega
  have htake : code enc (room + 1) s = (s.take k).flatMap enc ++ enc s[k] := by
    rw [code, hk, List.take_succ_eq_append_getElem hlt, List.flatMap_append]
    simp
  have hpos := List.length_pos_of_ne_nil (hne s[k])
  have hcount : count enc room s = k := by
    rw [htake, List.length_append] at hfull
    apply Nat.le_antisymm
    · have hle := le_count enc (room + 1) s (count_le_length enc room s)
        (Nat.le_succ_of_le (length_code_le enc room s))
      have hneq : count enc room s ≠ k + 1 := by
        intro h
        have hcode := length_code_le enc room s
        rw [code, h, List.take_succ_eq_append_getElem hlt, List.flatMap_append, List.length_append] at hcode
        simp only [List.flatMap_cons, List.flatMap_nil, List.append_nil] at hcode
        omega
      omega
    · exact le_count enc room s (Nat.le_of_lt hlt) (by omega)
  exact ⟨s[k], by rw [htake, code, hcount]⟩

variable (enc room s)

/-- Less than everything fits, or everything does. -/
lemma code_cases : (count enc room s < s.length ∧ room < (code enc room s).length + seenLength enc room s) ∨
    (count enc room s = s.length ∧ code enc room s = s.flatMap enc) := by
  rcases Nat.lt_or_eq_of_le (count_le_length enc room s) with h | h
  · exact Or.inl ⟨h, lt_of_count_lt h⟩
  · exact Or.inr ⟨h, by rw [code, h, List.take_length]⟩

variable {enc room s}

/-- A code that leaves room for any other element is whole. -/
lemma length_code_le_iff {bound : ℕ} (hlen : ∀ a, (enc a).length ≤ bound) {n : ℕ} (hn : n + bound ≤ room) :
    (code enc room s).length ≤ n ↔ (s.flatMap enc).length ≤ n := by
  constructor
  · intro h
    rcases code_cases enc room s with ⟨-, hlt⟩ | ⟨-, hall⟩
    · have hseen : seenLength enc room s ≤ bound := by
        unfold seenLength
        cases seen enc room s with
        | none => exact Nat.zero_le _
        | some a => exact hlen a
      omega
    · rwa [← hall]
  · intro h
    rw [code_of_le enc (by omega)]
    exact h

end

end Cut
