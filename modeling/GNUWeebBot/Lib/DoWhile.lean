import Mathlib.Tactic.Common

/-!
# Do-while loops

A turn of the loop changes the state and has a result, which says whether there is another turn. Fuel
bounds the number of turns. A loop that ends has the result of its first turn that is the last one.
-/

namespace DoWhile

variable {σ α : Type} (body : σ → σ × α) (again : α → Prop) [DecidablePred again]

/-- The result of the loop, if `fuel` turns are enough. -/
def run : ℕ → σ → Option α
  | 0, _ => none
  | fuel + 1, s =>
    let (s', a) := body s
    if again a then run fuel s' else some a

/-- The result of turn `n`, if the turns before it were followed by another one. -/
def turn : ℕ → σ → α
  | 0, s => (body s).2
  | n + 1, s => turn n (body s).1

/-- Turn `n` is the last one. -/
def EndsAt (n : ℕ) (s : σ) : Prop := (∀ m < n, again (turn body m s)) ∧ ¬again (turn body n s)

variable {body again}

theorem run_eq_some_iff {fuel : ℕ} {s : σ} {a : α} :
    run body again fuel s = some a ↔
      ∃ n < fuel, EndsAt body again n s ∧ turn body n s = a := by
  induction fuel generalizing s with
  | zero => simp [run]
  | succ fuel ih =>
    rw [run]
    dsimp only
    by_cases hagain : again (body s).2
    · rw [if_pos hagain, ih]
      constructor
      · rintro ⟨n, hn, ⟨hbefore, hlast⟩, ha⟩
        refine ⟨n + 1, Nat.succ_lt_succ hn, ⟨fun m hm => ?_, hlast⟩, ha⟩
        cases m with
        | zero => exact hagain
        | succ m => exact hbefore m (Nat.lt_of_succ_lt_succ hm)
      · rintro ⟨n, hn, ⟨hbefore, hlast⟩, ha⟩
        cases n with
        | zero => exact absurd hagain hlast
        | succ n =>
          refine ⟨n, Nat.lt_of_succ_lt_succ hn, ⟨fun m hm => ?_, hlast⟩, ha⟩
          exact hbefore (m + 1) (Nat.succ_lt_succ hm)
    · rw [if_neg hagain, Option.some_inj]
      constructor
      · exact fun ha => ⟨0, Nat.succ_pos fuel, ⟨fun m hm => absurd hm (Nat.not_lt_zero m), hagain⟩, ha⟩
      · rintro ⟨n, -, ⟨hbefore, -⟩, ha⟩
        cases n with
        | zero => exact ha
        | succ n => exact absurd (hbefore 0 (Nat.succ_pos n)) hagain

/-- Enough fuel gives the result of the last turn. -/
theorem ends_iff {s : σ} {a : α} :
    (∃ fuel, run body again fuel s = some a) ↔ ∃ n, EndsAt body again n s ∧ turn body n s = a := by
  simp only [run_eq_some_iff]
  constructor
  · rintro ⟨fuel, n, -, hn⟩
    exact ⟨n, hn⟩
  · rintro ⟨n, hn⟩
    exact ⟨n + 1, n, Nat.lt_succ_self n, hn⟩

omit [DecidablePred again] in
/-- A loop whose first turn is the last one. -/
lemma endsAt_iff_of_first {n : ℕ} {s : σ} (h : ¬again (turn body 0 s)) : EndsAt body again n s ↔ n = 0 := by
  constructor
  · intro hn
    by_contra hne
    exact h (hn.1 0 (Nat.pos_of_ne_zero hne))
  · rintro rfl
    exact ⟨fun m hm => absurd hm (Nat.not_lt_zero m), h⟩

end DoWhile
