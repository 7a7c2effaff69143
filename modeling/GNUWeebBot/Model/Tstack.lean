import Mathlib.Data.Int.Order.Basic
import Mathlib.Data.List.Perm.Subperm
import Mathlib.Tactic.Common

/-!
# The index stack

`struct tstack` of `lib/tstack.h`: an array filled from its high end downwards. Both
slot allocators of the server, `chan_stk` and `thread_stk`, are such stacks. The file
ends with the list view of a stack and with what the operations do to it.
-/

namespace GNUWeebBot

structure Tstack where
  sp : ℕ
  capacity : ℕ
  arr : ℕ → ℕ

def tssInit (capacity : ℕ) : Tstack := ⟨capacity, capacity, fun _ => 0⟩

def tssCount (st : Tstack) : ℕ := st.capacity - st.sp

/-- Returns the pushed value, or `-1` when the stack is full. -/
def tssPush (st : Tstack) (val : ℕ) : ℤ × Tstack :=
  if st.sp = 0 then (-1, st)
  else (val, { st with sp := st.sp - 1, arr := Function.update st.arr (st.sp - 1) val })

/-- Returns the popped value, or `-1` when the stack is empty. -/
def tssPop (st : Tstack) : ℤ × Tstack :=
  if st.sp = st.capacity then (-1, st)
  else (st.arr st.sp, { st with sp := st.sp + 1 })

namespace Tstack

/-- The stored values, the most recently pushed one first. -/
def toList (st : Tstack) : List ℕ := (List.range (st.capacity - st.sp)).map (fun k => st.arr (st.sp + k))

/-- What every `TASSERT` of `lib/tstack.h` asks for. -/
def Ok (st : Tstack) : Prop := st.sp ≤ st.capacity

lemma ok_tssInit (capacity : ℕ) : (tssInit capacity).Ok := Nat.le_refl capacity

@[simp] lemma toList_tssInit (capacity : ℕ) : (tssInit capacity).toList = [] := by
  simp [toList, tssInit]

lemma toList_length (st : Tstack) : st.toList.length = tssCount st := by
  simp [toList, tssCount]

@[simp] lemma capacity_tssPush (st : Tstack) (val : ℕ) : (tssPush st val).2.capacity = st.capacity := by
  unfold tssPush
  split <;> rfl

lemma ok_tssPush {st : Tstack} (h : st.Ok) (val : ℕ) : (tssPush st val).2.Ok := by
  unfold tssPush Ok at *
  split
  · exact h
  · simp only
    omega

/-- A push that finds room puts the value on top. -/
lemma toList_tssPush {st : Tstack} (h : st.Ok) (hroom : st.sp ≠ 0) (val : ℕ) :
    (tssPush st val).2.toList = val :: st.toList := by
  unfold Ok at h
  have hlen : st.capacity - (st.sp - 1) = (st.capacity - st.sp) + 1 := by omega
  simp only [tssPush, if_neg hroom, toList, hlen, List.range_succ_eq_map, List.map_cons, List.map_map,
    Nat.add_zero, Function.update_self]
  congr 1
  apply List.map_congr_left
  intro k _
  have hk : st.sp - 1 + (k + 1) = st.sp + k := by omega
  have hne : st.sp + k ≠ st.sp - 1 := by omega
  simp only [Function.comp_apply, Nat.succ_eq_add_one, hk, Function.update_of_ne hne]

lemma room_of_length_lt {st : Tstack} (hlt : st.toList.length < st.capacity) : st.sp ≠ 0 := by
  rw [toList_length, tssCount] at hlt
  omega

/-- `tss_pop` on the list view: it fails exactly on the empty stack, and else takes the top. -/
lemma tssPop_cases {st : Tstack} (h : st.Ok) :
    (st.toList = [] ∧ tssPop st = (-1, st)) ∨
      ∃ v st', st.toList = v :: st'.toList ∧ tssPop st = ((v : ℤ), st') ∧ st'.Ok ∧
        st'.capacity = st.capacity := by
  unfold Ok at h
  by_cases he : st.sp = st.capacity
  · left
    exact ⟨by simp [toList, he], by simp [tssPop, he]⟩
  · right
    have hlen : st.capacity - st.sp = (st.capacity - (st.sp + 1)) + 1 := by omega
    refine ⟨st.arr st.sp, { st with sp := st.sp + 1 }, ?_, by simp [tssPop, he], ?_, rfl⟩
    · simp only [toList, hlen, List.range_succ_eq_map, List.map_cons, List.map_map, Nat.add_zero]
      congr 1
      apply List.map_congr_left
      intro k _
      have hk : st.sp + (k + 1) = st.sp + 1 + k := by omega
      simp only [Function.comp_apply, Nat.succ_eq_add_one, hk]
    · unfold Ok
      simp only
      omega

/-- Pushing `vals` one after the other leaves the last of them on top. -/
lemma toList_foldl_tssPush {st : Tstack} (h : st.Ok) (vals : List ℕ) (hroom : vals.length ≤ st.sp) :
    (vals.foldl (fun st v => (tssPush st v).2) st).toList = vals.reverse ++ st.toList := by
  induction vals generalizing st with
  | nil => rfl
  | cons v vals ih =>
    rw [List.length_cons] at hroom
    have hsp : st.sp ≠ 0 := by omega
    have hsp' : (tssPush st v).2.sp = st.sp - 1 := by simp [tssPush, hsp]
    rw [List.foldl_cons, ih (ok_tssPush h v) (by omega), toList_tssPush h hsp v]
    simp

lemma ok_foldl_tssPush {st : Tstack} (h : st.Ok) (vals : List ℕ) :
    (vals.foldl (fun st v => (tssPush st v).2) st).Ok ∧
      (vals.foldl (fun st v => (tssPush st v).2) st).capacity = st.capacity := by
  induction vals generalizing st with
  | nil => exact ⟨h, rfl⟩
  | cons v vals ih =>
    rw [List.foldl_cons]
    have hv := ih (ok_tssPush h v)
    rwa [capacity_tssPush] at hv

end Tstack

/-- Both slot stacks as `init_state` fills them: `thread_c - 1` first, so that `0` is on top. -/
def fillStk (threadC : ℕ) : Tstack :=
  (List.range threadC).reverse.foldl (fun st i => (tssPush st i).2) (tssInit threadC)

lemma toList_fillStk (threadC : ℕ) : (fillStk threadC).toList = List.range threadC := by
  unfold fillStk
  rw [Tstack.toList_foldl_tssPush (Tstack.ok_tssInit threadC) _ (by simp [tssInit])]
  simp

lemma ok_fillStk (threadC : ℕ) : (fillStk threadC).Ok ∧ (fillStk threadC).capacity = threadC :=
  Tstack.ok_foldl_tssPush (Tstack.ok_tssInit threadC) _

/-- Distinct numbers below `n`, one number missing, are fewer than `n`. -/
lemma length_lt_of_nodup_of_not_mem {l : List ℕ} {n i : ℕ} (hnd : l.Nodup) (hlt : ∀ j ∈ l, j < n)
    (hi : i < n) (hmem : i ∉ l) : l.length < n := by
  have hsub : (i :: l) ⊆ List.range n := by
    intro j hj
    rw [List.mem_range]
    rcases List.mem_cons.mp hj with rfl | hj
    · exact hi
    · exact hlt j hj
  have hle := ((List.nodup_cons.mpr ⟨hmem, hnd⟩).subperm hsub).length_le
  rw [List.length_cons, List.length_range] at hle
  omega

end GNUWeebBot
