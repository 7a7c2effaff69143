import GNUWeebBot.Lib.Lifo
import GNUWeebBot.Lib.Refinement
import GNUWeebBot.Model.TstackArray

/-!
# The index stack is a bounded last-in first-out stack

The stack pointer runs downwards from the capacity, so the stored values are the array
from the stack pointer on. Under this view `tss_push` and `tss_pop` are the operations of
`Lifo`, and the unsigned arithmetic never wraps.
-/

namespace GNUWeebBot.Proofs

open Fill Refinement

/-- The `int64_t` the operations return for a value, and for none. -/
def tssAnswer : Option UInt32 → Int64
  | none => -1
  | some val => Int64.ofNat val.toNat

/-- The same operations on the abstract stack. -/
def lifoOp (q : Lifo UInt32) : TssOp → Option UInt32 × Lifo UInt32
  | .push val => q.push val
  | .pop => q.pop

/-- `st` holds the values of `q`, the top at `arr[sp]`. -/
structure StoresLifo (st : TstackArr) (q : Lifo UInt32) : Prop where
  sp_le : st.sp ≤ st.capacity
  length : st.arr.length = st.capacity.toNat
  capacity : st.capacity.toNat = q.capacity
  items : st.arr.drop st.sp.toNat = q.items

namespace StoresLifo

variable {st : TstackArr} {q : Lifo UInt32}

lemma sp_toNat_le (h : StoresLifo st q) : st.sp.toNat ≤ st.capacity.toNat := UInt32.le_iff_toNat_le.mp h.sp_le

lemma length_items (h : StoresLifo st q) : q.items.length = st.capacity.toNat - st.sp.toNat := by
  rw [← h.items, List.length_drop, h.length]

lemma init (capacity : UInt32) : StoresLifo (TstackArr.tssInit capacity) (Lifo.empty capacity.toNat) where
  sp_le := UInt32.le_refl _
  length := List.length_replicate
  capacity := rfl
  items := by simp [TstackArr.tssInit, Lifo.empty]

lemma assertSp (h : StoresLifo st q) : TstackArr.assertSp st = .next () st := if_pos (decide_eq_true h.sp_le)

lemma full_iff (h : StoresLifo st q) : q.Full ↔ st.sp = 0 := by
  have hle := h.sp_toNat_le
  rw [Lifo.Full, h.length_items, ← h.capacity, ← UInt32.toNat_inj, UInt32.toNat_zero]
  omega

lemma sp_ne_zero (h : StoresLifo st q) (hfull : ¬q.Full) : st.sp ≠ 0 := fun h0 => hfull (h.full_iff.mpr h0)

lemma items_eq_nil_iff (h : StoresLifo st q) : q.items = [] ↔ st.sp = st.capacity := by
  have hle := h.sp_toNat_le
  rw [← List.length_eq_zero_iff, h.length_items, ← UInt32.toNat_inj]
  omega

lemma tssCount (h : StoresLifo st q) : TstackArr.tssCount st = .next (UInt32.ofNat q.items.length) st := by
  have hcount : st.capacity - st.sp = UInt32.ofNat q.items.length := by
    rw [h.length_items, ← UInt32.toNat_sub_of_le _ _ h.sp_le, UInt32.ofNat_toNat]
  rw [← hcount, TstackArr.tssCount, bind_read, bind_read, bind_of_next h.assertSp]
  rfl

lemma push_full (h : StoresLifo st q) (hfull : st.sp = 0) (val : UInt32) :
    TstackArr.tssPush val st = .next (-1) st := by
  rw [TstackArr.tssPush, bind_read, bind_of_next h.assertSp]
  exact congrFun (if_pos hfull) st

/-- The stack after a push that finds room. -/
def pushed (st : TstackArr) (val : UInt32) : TstackArr :=
  { st with sp := st.sp - 1, arr := st.arr.set (st.sp - 1).toNat val }

lemma pred_toNat (hroom : st.sp ≠ 0) : (st.sp - 1).toNat + 1 = st.sp.toNat := by
  have hpos : 0 < st.sp.toNat := by
    rw [Nat.pos_iff_ne_zero, ne_eq, ← UInt32.toNat_zero, UInt32.toNat_inj]
    exact hroom
  have hle : (1 : UInt32) ≤ st.sp := UInt32.le_iff_toNat_le.mpr hpos
  rw [UInt32.toNat_sub_of_le _ _ hle, UInt32.toNat_one]
  omega

lemma pred_lt (h : StoresLifo st q) (hroom : st.sp ≠ 0) : (st.sp - 1).toNat < st.arr.length := by
  have hpred := pred_toNat hroom
  have hle := h.sp_toNat_le
  rw [h.length]
  omega

lemma push_room (h : StoresLifo st q) (hroom : st.sp ≠ 0) (val : UInt32) :
    TstackArr.tssPush val st = .next (Int64.ofNat val.toNat) (pushed st val) := by
  have hstore : TstackArr.store (st.sp - 1) val st = .next () { st with arr := st.arr.set (st.sp - 1).toNat val } :=
    if_pos (h.pred_lt hroom)
  rw [TstackArr.tssPush, bind_read, bind_of_next h.assertSp]
  exact (congrFun (if_neg hroom) st).trans (bind_of_next hstore)

lemma stores_pushed (h : StoresLifo st q) (hroom : st.sp ≠ 0) (val : UInt32) :
    StoresLifo (pushed st val) { q with items := val :: q.items } := by
  have hpred := pred_toNat hroom
  have hle := h.sp_toNat_le
  constructor
  · change st.sp - 1 ≤ st.capacity
    rw [UInt32.le_iff_toNat_le]
    omega
  · simp only [pushed, List.length_set, h.length]
  · exact h.capacity
  · simp only [pushed]
    rw [List.drop_eq_getElem_cons (by rw [List.length_set]; exact h.pred_lt hroom), List.getElem_set_self, hpred,
      List.drop_set_of_lt (by omega), h.items]

lemma pop_empty (h : StoresLifo st q) (hempty : st.sp = st.capacity) : TstackArr.tssPop st = .next (-1) st := by
  rw [TstackArr.tssPop, bind_read, bind_read, bind_of_next h.assertSp]
  exact congrFun (if_pos hempty) st

/-- The stack after a pop that finds a value. -/
def popped (st : TstackArr) : TstackArr := { st with sp := st.sp + 1 }

lemma succ_toNat (h : StoresLifo st q) (hne : st.sp ≠ st.capacity) :
    (st.sp + 1).toNat = st.sp.toNat + 1 ∧ st.sp.toNat < st.capacity.toNat := by
  have hle := h.sp_toNat_le
  have hcap := st.capacity.toNat_lt
  have hlt : st.sp.toNat ≠ st.capacity.toNat := fun heq => hne (UInt32.toNat_inj.mp heq)
  rw [UInt32.toNat_add, UInt32.toNat_one]
  omega

lemma sp_ne_capacity (h : StoresLifo st q) {v : UInt32} {vs : List UInt32} (hitems : q.items = v :: vs) :
    st.sp ≠ st.capacity := by
  rw [ne_eq, ← h.items_eq_nil_iff, hitems]
  exact List.cons_ne_nil v vs

/-- The value at the top. -/
lemma arr_sp (h : StoresLifo st q) {v : UInt32} {vs : List UInt32} (hitems : q.items = v :: vs) :
    st.arr[st.sp.toNat]? = some v := by
  rw [← Nat.add_zero st.sp.toNat, ← List.getElem?_drop, h.items, hitems]
  rfl

lemma pop_item (h : StoresLifo st q) {v : UInt32} {vs : List UInt32} (hitems : q.items = v :: vs) :
    TstackArr.tssPop st = .next (Int64.ofNat v.toNat) (popped st) ∧ StoresLifo (popped st) { q with items := vs } := by
  have hne := h.sp_ne_capacity hitems
  obtain ⟨hsucc, hlt⟩ := h.succ_toNat hne
  have hrest : st.arr.drop (st.sp.toNat + 1) = vs := by
    rw [← List.drop_drop, h.items, hitems]
    rfl
  have hload : TstackArr.load st.sp st = .next v st := by
    simp only [TstackArr.load, h.arr_sp hitems]
  constructor
  · rw [TstackArr.tssPop, bind_read, bind_read, bind_of_next h.assertSp]
    exact (congrFun (if_neg hne) st).trans (bind_of_next hload)
  · constructor
    · change st.sp + 1 ≤ st.capacity
      rw [UInt32.le_iff_toNat_le, hsucc]
      exact hlt
    · exact h.length
    · exact h.capacity
    · exact (congrArg (fun k => st.arr.drop k) hsucc).trans hrest

end StoresLifo

/-- One operation of the code and the same one on the abstract stack. -/
lemma tssOp_simulates : Simulates (fun _ _ => True) tssOp lifoOp tssAnswer StoresLifo := by
  constructor
  intro op st q _ h
  cases op with
  | push val =>
    by_cases hfull : q.Full
    · rw [lifoOp, Lifo.push_of_full hfull]
      exact ⟨st, h.push_full (h.full_iff.mp hfull) val, h⟩
    · have hroom := h.sp_ne_zero hfull
      rw [lifoOp, Lifo.push_of_not_full hfull]
      exact ⟨_, h.push_room hroom val, h.stores_pushed hroom val⟩
  | pop =>
    obtain ⟨items, capacity⟩ := q
    cases items with
    | nil =>
      rw [lifoOp, Lifo.pop_nil]
      exact ⟨st, h.pop_empty (h.items_eq_nil_iff.mp rfl), h⟩
    | cons v vs =>
      rw [lifoOp, Lifo.pop_cons]
      exact ⟨_, h.pop_item rfl⟩

lemma tssAnswer_toInt (val : UInt32) : (Int64.ofNat val.toNat).toInt = val.toNat := by
  have hlt := val.toNat_lt
  exact Int64.toInt_ofNat_of_lt (by omega)

/-- `-1` stands for no value only, and a value can be told from its answer. -/
lemma tssAnswer_injective : Function.Injective tssAnswer := by
  have hneg : (tssAnswer none).toInt = -1 := by decide
  have hsome : ∀ v, (tssAnswer (some v)).toInt = v.toNat := tssAnswer_toInt
  intro a b hab
  have hint : (tssAnswer a).toInt = (tssAnswer b).toInt := congrArg Int64.toInt hab
  cases a with
  | none =>
    cases b with
    | none => rfl
    | some v =>
      rw [hneg, hsome] at hint
      omega
  | some u =>
    cases b with
    | none =>
      rw [hneg, hsome] at hint
      omega
    | some v =>
      rw [hsome, hsome, Int.ofNat_inj, UInt32.toNat_inj] at hint
      rw [hint]

/-! ### The stack in the model of the server -/

section Server

variable {st : TstackArr} {q : Lifo UInt32}

lemma toTstack_tssInit (capacity : UInt32) :
    (TstackArr.tssInit capacity).toTstack = GNUWeebBot.tssInit capacity.toNat := by
  have harr : (fun i => ((List.replicate capacity.toNat (0 : UInt32)).getD i 0).toNat) = fun _ => 0 := by
    funext i
    rw [List.getD_eq_getElem?_getD, List.getElem?_replicate]
    split <;> rfl
  unfold TstackArr.toTstack TstackArr.tssInit GNUWeebBot.tssInit
  rw [harr]

/-- `tss_push` of the server's model does what the code does to the stored stack. -/
theorem tssPush_toTstack (h : StoresLifo st q) (val : UInt32) {ret : Int64} {st' : TstackArr}
    (hpush : TstackArr.tssPush val st = .next ret st') :
    GNUWeebBot.tssPush st.toTstack val.toNat = (ret.toInt, st'.toTstack) := by
  by_cases hsp : st.sp = 0
  · rw [h.push_full hsp, Outcome.next.injEq] at hpush
    obtain ⟨rfl, rfl⟩ := hpush
    exact if_pos (UInt32.toNat_inj.mpr hsp)
  · rw [h.push_room hsp, Outcome.next.injEq] at hpush
    obtain ⟨rfl, rfl⟩ := hpush
    have hpred := StoresLifo.pred_toNat hsp
    have hlt := h.pred_lt hsp
    have hsub : st.sp.toNat - 1 = (st.sp - 1).toNat := by omega
    have harr : Function.update (fun i => (st.arr.getD i 0).toNat) (st.sp - 1).toNat val.toNat =
        fun i => ((st.arr.set (st.sp - 1).toNat val).getD i 0).toNat := by
      funext i
      by_cases hi : i = (st.sp - 1).toNat
      · subst hi
        simp [hlt]
      · rw [Function.update_of_ne hi, List.getD_eq_getElem?_getD, List.getD_eq_getElem?_getD,
          List.getElem?_set_ne (Ne.symm hi)]
    have hzero : st.toTstack.sp ≠ 0 := by
      change st.sp.toNat ≠ 0
      omega
    rw [GNUWeebBot.tssPush, if_neg hzero, tssAnswer_toInt val]
    unfold TstackArr.toTstack StoresLifo.pushed
    simp only [hsub, harr]

/-- The same of `tss_pop`. -/
theorem tssPop_toTstack (h : StoresLifo st q) {ret : Int64} {st' : TstackArr}
    (hpop : TstackArr.tssPop st = .next ret st') :
    GNUWeebBot.tssPop st.toTstack = (ret.toInt, st'.toTstack) := by
  cases hitems : q.items with
  | nil =>
    have hempty := h.items_eq_nil_iff.mp hitems
    rw [h.pop_empty hempty, Outcome.next.injEq] at hpop
    obtain ⟨rfl, rfl⟩ := hpop
    exact if_pos (UInt32.toNat_inj.mpr hempty)
  | cons v vs =>
    obtain ⟨hsucc, hlt⟩ := h.succ_toNat (h.sp_ne_capacity hitems)
    rw [(h.pop_item hitems).1, Outcome.next.injEq] at hpop
    obtain ⟨rfl, rfl⟩ := hpop
    have hget : (st.arr.getD st.sp.toNat 0) = v := by
      rw [List.getD_eq_getElem?_getD, h.arr_sp hitems, Option.getD_some]
    have hcap : st.toTstack.sp ≠ st.toTstack.capacity := Nat.ne_of_lt hlt
    rw [GNUWeebBot.tssPop, if_neg hcap, tssAnswer_toInt v]
    unfold TstackArr.toTstack StoresLifo.popped
    simp only [hget, hsucc]

end Server

/-- What the stack does in a state that holds the values of `q`. -/
structure TstackExact (st : TstackArr) (q : Lifo UInt32) : Prop where
  stores : StoresLifo st q
  count : TstackArr.tssCount st = .next (UInt32.ofNat q.items.length) st
  count_fits : q.items.length < UInt32.size
  fails_iff_full : ∀ val, TstackArr.tssPush val st = .next (-1) st ↔ q.items.length = q.capacity
  push : ∀ val, q.items.length ≠ q.capacity → ∃ st', TstackArr.tssPush val st = .next (tssAnswer (some val)) st' ∧
    StoresLifo st' { q with items := val :: q.items }
  fails_iff_empty : TstackArr.tssPop st = .next (-1) st ↔ q.items = []
  pop : ∀ val vals, q.items = val :: vals → ∃ st', TstackArr.tssPop st = .next (tssAnswer (some val)) st' ∧
    StoresLifo st' { q with items := vals }

lemma StoresLifo.exact {st : TstackArr} {q : Lifo UInt32} (h : StoresLifo st q) : TstackExact st q := by
  have hanswer : ∀ val : UInt32, Int64.ofNat val.toNat ≠ -1 := fun val heq =>
    Option.some_ne_none val (tssAnswer_injective heq)
  constructor
  · exact h
  · exact h.tssCount
  · rw [h.length_items]
    exact Nat.lt_of_le_of_lt (Nat.sub_le _ _) st.capacity.toNat_lt_size
  · intro val
    constructor
    · intro hret
      by_contra hfull
      rw [h.push_room (h.sp_ne_zero hfull) val, Outcome.next.injEq] at hret
      exact hanswer val hret.1
    · exact fun hfull => h.push_full (h.full_iff.mp hfull) val
  · intro val hfull
    have hroom := h.sp_ne_zero hfull
    exact ⟨_, h.push_room hroom val, h.stores_pushed hroom val⟩
  · constructor
    · intro hret
      cases hitems : q.items with
      | nil => rfl
      | cons v vs =>
        rw [(h.pop_item hitems).1, Outcome.next.injEq] at hret
        exact absurd hret.1 (hanswer v)
    · exact fun hempty => h.pop_empty (h.items_eq_nil_iff.mp hempty)
  · exact fun v vs hitems => ⟨_, h.pop_item hitems⟩

/-- Every sequence of pushes and pops runs without a failing `TASSERT` and without an
access outside the array, answers as the abstract stack does, and ends in a state that
stands for the abstract one. -/
theorem tstack_refines_lifo (capacity : UInt32) (ops : List TssOp) :
    Function.Injective tssAnswer ∧
    ∃ st, each tssOp ops (TstackArr.tssInit capacity) =
        .next ((outputs lifoOp (Lifo.empty capacity.toNat) ops).1.map tssAnswer) st ∧
      TstackExact st (outputs lifoOp (Lifo.empty capacity.toNat) ops).2 := by
  refine ⟨tssAnswer_injective, ?_⟩
  obtain ⟨st, hrun, hstores⟩ := tssOp_simulates.run ops (admissible_true _ _ _) (StoresLifo.init capacity)
  exact ⟨st, hrun, hstores.exact⟩

example : (outputs lifoOp (Lifo.empty 2) [.push 7, .push 8, .push 9, .pop, .pop, .pop]).1 =
    [some 7, some 8, none, some 8, some 7, none] := by decide

end GNUWeebBot.Proofs
