import Mathlib.Tactic.Common
import Mathlib.Data.List.Basic

/-!
# Bounded last-in first-out stacks
-/

structure Lifo (α : Type*) where
  items : List α
  capacity : ℕ

namespace Lifo

variable {α : Type*}

def empty (capacity : ℕ) : Lifo α := ⟨[], capacity⟩

def Full (q : Lifo α) : Prop := q.items.length = q.capacity

instance (q : Lifo α) : Decidable q.Full := inferInstanceAs (Decidable (q.items.length = q.capacity))

/-- What was pushed, nothing on the full stack. -/
def push (q : Lifo α) (x : α) : Option α × Lifo α :=
  if q.Full then (none, q) else (some x, { q with items := x :: q.items })

/-- The item pushed last, nothing on the empty stack. -/
def pop (q : Lifo α) : Option α × Lifo α :=
  match q.items with
  | [] => (none, q)
  | x :: xs => (some x, { q with items := xs })

variable {q : Lifo α}

lemma push_of_full (h : q.Full) (x : α) : q.push x = (none, q) := if_pos h

lemma push_of_not_full (h : ¬q.Full) (x : α) : q.push x = (some x, { q with items := x :: q.items }) := if_neg h

lemma pop_nil (capacity : ℕ) : (Lifo.mk ([] : List α) capacity).pop = (none, ⟨[], capacity⟩) := rfl

lemma pop_cons (x : α) (xs : List α) (capacity : ℕ) :
    (Lifo.mk (x :: xs) capacity).pop = (some x, ⟨xs, capacity⟩) := rfl

end Lifo
