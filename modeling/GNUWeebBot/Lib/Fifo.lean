import Mathlib.Tactic.Common
import Mathlib.Data.List.Basic

/-!
# Bounded first-in first-out queues
-/

structure Fifo (α : Type*) where
  items : List α
  capacity : ℕ

namespace Fifo

variable {α : Type*}

def empty (capacity : ℕ) : Fifo α := ⟨[], capacity⟩

def isFull (q : Fifo α) : Bool := decide (q.capacity ≤ q.items.length)

def push (q : Fifo α) (x : α) : Fifo α := { q with items := q.items ++ [x] }

/-- The oldest item and the remaining queue. -/
def dequeue (q : Fifo α) : Option (α × Fifo α) :=
  match q.items with
  | [] => none
  | x :: xs => some (x, { q with items := xs })

@[simp] lemma items_empty (capacity : ℕ) : (empty capacity : Fifo α).items = [] := rfl

@[simp] lemma items_push (q : Fifo α) (x : α) : (q.push x).items = q.items ++ [x] := rfl

lemma items_of_dequeue {q q' : Fifo α} {x : α} (h : q.dequeue = some (x, q')) :
    q.items = x :: q'.items := by
  obtain ⟨items, capacity⟩ := q
  cases items with
  | nil => simp [dequeue] at h
  | cons y ys =>
    simp only [dequeue, Option.some_inj, Prod.mk.injEq] at h
    obtain ⟨rfl, rfl⟩ := h
    rfl

lemma dequeue_eq_none {q : Fifo α} : q.dequeue = none ↔ q.items = [] := by
  obtain ⟨items, capacity⟩ := q
  cases items <;> simp [dequeue]

end Fifo
