import GNUWeebBot.Lib.Fill
import Mathlib.Data.List.Perm.Basic

/-!
# Handlers that are tried in their order

Each handler takes the event or cancels. Where of any two handlers one always passes the event on untouched, the
order in which they are tried does not matter.
-/

namespace Dispatch

open Fill

variable {ε σ : Type} (cancel : ℤ)

/-- Up to the first handler that does not cancel; `ret` is returned where there is no handler. -/
def firstOf : List (Fill ε σ ℤ) → ℤ → Fill ε σ ℤ
  | [], ret => pure ret
  | h :: hs, _ => do
    let ret ← h
    if ret ≠ cancel then pure ret else firstOf hs ret

/-- It cancels and leaves the state alone. -/
def Passes (h : Fill ε σ ℤ) : Prop := ∀ s, h s = .next cancel s

def Apart (h h' : Fill ε σ ℤ) : Prop := Passes cancel h ∨ Passes cancel h'

variable {cancel} {h h' : Fill ε σ ℤ} {hs hs' : List (Fill ε σ ℤ)}

lemma Apart.symm (hapart : Apart cancel h h') : Apart cancel h' h := Or.symm hapart

lemma firstOf_of_passes (hpass : Passes cancel h) (ret : ℤ) : firstOf cancel (h :: hs) ret = firstOf cancel hs cancel := by
  funext s
  rw [firstOf, bind_of_next (hpass s), if_neg (not_not_intro rfl)]

/-- The rest is only tried with the code for a cancelled event. -/
lemma firstOf_cons_congr (h : Fill ε σ ℤ) (htail : firstOf cancel hs cancel = firstOf cancel hs' cancel) (ret : ℤ) :
    firstOf cancel (h :: hs) ret = firstOf cancel (h :: hs') ret := by
  rw [firstOf, firstOf]
  congr 1
  funext ret'
  by_cases hret : ret' = cancel
  · rw [hret, htail]
  · rw [if_pos hret, if_pos hret]

/-- Of two neighbours one passes, so they can be exchanged. -/
lemma firstOf_swap (hapart : Apart cancel h h') (ret : ℤ) :
    firstOf cancel (h :: h' :: hs) ret = firstOf cancel (h' :: h :: hs) ret := by
  have hmove : ∀ {h h' : Fill ε σ ℤ}, Passes cancel h → ∀ ret,
      firstOf cancel (h :: h' :: hs) ret = firstOf cancel (h' :: h :: hs) ret := by
    intro h h' hpass ret
    calc firstOf cancel (h :: h' :: hs) ret
      _ = firstOf cancel (h' :: hs) cancel := firstOf_of_passes hpass ret
      _ = firstOf cancel (h' :: hs) ret := by rw [firstOf, firstOf]
      _ = firstOf cancel (h' :: h :: hs) ret := firstOf_cons_congr h' (firstOf_of_passes hpass cancel).symm ret
  rcases hapart with hpass | hpass
  · exact hmove hpass ret
  · exact (hmove hpass ret).symm

theorem firstOf_perm (hperm : hs.Perm hs') (hapart : hs.Pairwise (Apart cancel)) (ret : ℤ) :
    firstOf cancel hs ret = firstOf cancel hs' ret := by
  induction hperm generalizing ret with
  | nil => rfl
  | cons h _ ih =>
    rw [List.pairwise_cons] at hapart
    exact firstOf_cons_congr h (ih hapart.2 cancel) ret
  | swap h h' hs =>
    rw [List.pairwise_cons] at hapart
    exact firstOf_swap (hapart.1 h List.mem_cons_self) ret
  | trans hfirst _ ih ih' =>
    rw [ih hapart, ih' ((hfirst.pairwise_iff Apart.symm).mp hapart)]

/-- Where all others pass, only the one is left. -/
lemma firstOf_of_only (front : List (Fill ε σ ℤ)) (hfront : ∀ g ∈ front, Passes cancel g) (hrest : ∀ g ∈ hs, Passes cancel g)
    (ret : ℤ) : firstOf cancel (front ++ h :: hs) ret = h := by
  have hpassed : ∀ hs : List (Fill ε σ ℤ), (∀ g ∈ hs, Passes cancel g) → firstOf cancel hs cancel = pure cancel := by
    intro hs
    induction hs with
    | nil => exact fun _ => rfl
    | cons g hs ih =>
      intro hall
      rw [List.forall_mem_cons] at hall
      rw [firstOf_of_passes hall.1, ih hall.2]
  induction front generalizing ret with
  | nil =>
    funext s
    rw [List.nil_append, firstOf]
    change Fill.bind h _ s = h s
    unfold Fill.bind
    cases h s with
    | fault e s' => rfl
    | ret code s' => rfl
    | next code s' =>
      by_cases hcode : code = cancel
      · simp only [hcode, ne_eq, not_true_eq_false, if_false, hpassed hs hrest]
        rfl
      · simp only [ne_eq, hcode, not_false_eq_true, if_true]
        rfl
  | cons g front ih =>
    rw [List.forall_mem_cons] at hfront
    rw [List.cons_append, firstOf_of_passes hfront.1, ih hfront.2]

end Dispatch
