import Mathlib.Data.List.Range
import Mathlib.Data.List.Perm.Basic
import Mathlib.Tactic.Common

/-!
# A ledger of heap blocks

Blocks are numbered in the order in which they are obtained. `Accounts` says which of the blocks that
were obtained on the way from one ledger to another are still out.
-/

structure Ledger where
  obtained : ℕ := 0
  freed : List ℕ := []

namespace Ledger

/-- The block that an allocation returns, and the ledger then. -/
def obtain (l : Ledger) : ℕ × Ledger := (l.obtained, { l with obtained := l.obtained + 1 })

/-- `free`, of nothing where the pointer is null. -/
def free (l : Ledger) (block : Option ℕ) : Ledger := { l with freed := block.toList ++ l.freed }

/-- Each block was freed exactly once, and nothing else was. -/
def Balanced (l : Ledger) : Prop := ∀ block, l.freed.count block = if block < l.obtained then 1 else 0

/-- Of the blocks obtained between the ledgers, those in `out` are not freed, and all others exactly once. -/
structure Accounts (l l' : Ledger) (out : List ℕ) : Prop where
  le : l.obtained ≤ l'.obtained
  blocks : ∃ freed, l'.freed = freed ++ l.freed ∧
    (out ++ freed).Perm (List.range' l.obtained (l'.obtained - l.obtained))

variable {l l' l'' : Ledger} {out out' : List ℕ}

lemma Accounts.refl (l : Ledger) : Accounts l l [] := by
  refine ⟨Nat.le_refl _, [], rfl, ?_⟩
  rw [Nat.sub_self]
  exact List.Perm.refl _

lemma Accounts.obtain (l : Ledger) : Accounts l l.obtain.2 [l.obtained] := by
  refine ⟨Nat.le_succ _, [], rfl, ?_⟩
  have hone : l.obtain.2.obtained - l.obtained = 1 := Nat.add_sub_cancel_left _ _
  rw [hone]
  exact List.Perm.refl _

lemma Accounts.perm (h : Accounts l l' out) (hperm : out.Perm out') : Accounts l l' out' := by
  obtain ⟨hle, freed, hfreed, hall⟩ := h
  exact ⟨hle, freed, hfreed, (hperm.symm.append_right freed).trans hall⟩

lemma Accounts.trans (h : Accounts l l' out) (h' : Accounts l' l'' out') : Accounts l l'' (out ++ out') := by
  obtain ⟨hle, freed, hfreed, hall⟩ := h
  obtain ⟨hle', freed', hfreed', hall'⟩ := h'
  refine ⟨Nat.le_trans hle hle', freed' ++ freed, by rw [hfreed', hfreed, List.append_assoc], ?_⟩
  have hrange : List.range' l.obtained (l''.obtained - l.obtained) =
      List.range' l.obtained (l'.obtained - l.obtained) ++ List.range' l'.obtained (l''.obtained - l'.obtained) := by
    have hsum : l''.obtained - l.obtained = l'.obtained - l.obtained + (l''.obtained - l'.obtained) := by omega
    have hmid : l.obtained + (l'.obtained - l.obtained) = l'.obtained := by omega
    rw [hsum, ← List.range'_append_1, hmid]
  rw [hrange]
  have hswap : (out ++ out' ++ (freed' ++ freed)).Perm (out ++ freed ++ (out' ++ freed')) := by
    rw [List.perm_iff_count]
    intro b
    simp only [List.count_append]
    omega
  exact hswap.trans (hall.append hall')

/-- A block that is out is freed. -/
lemma Accounts.free {block : Option ℕ} (h : Accounts l l' (block.toList ++ out)) : Accounts l (l'.free block) out := by
  obtain ⟨hle, freed, hfreed, hall⟩ := h
  refine ⟨hle, block.toList ++ freed, by rw [Ledger.free, hfreed, List.append_assoc], ?_⟩
  have hswap : (out ++ (block.toList ++ freed)).Perm (block.toList ++ out ++ freed) := by
    rw [List.perm_iff_count]
    intro b
    simp only [List.count_append]
    omega
  exact hswap.trans hall

/-- From an empty ledger on, it is balanced exactly if nothing is out. -/
lemma Accounts.balanced_iff (h : Accounts {} l out) : Balanced l ↔ out = [] := by
  obtain ⟨-, freed, hfreed, hall⟩ := h
  rw [List.append_nil] at hfreed
  subst hfreed
  have hcount : ∀ b, out.count b + l.freed.count b = if b < l.obtained then 1 else 0 := by
    intro b
    rw [← List.count_append, hall.count_eq, ← List.range_eq_range', List.count_range, Nat.sub_zero]
  constructor
  · intro hbalanced
    rw [List.eq_nil_iff_forall_not_mem]
    intro b hb
    have hpos := List.count_pos_iff.mpr hb
    have hsum := hcount b
    rw [hbalanced b] at hsum
    omega
  · rintro rfl b
    rw [← hcount b, List.count_nil, Nat.zero_add]

end Ledger
