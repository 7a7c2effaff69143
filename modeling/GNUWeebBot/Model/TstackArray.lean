import GNUWeebBot.Lib.Fill
import GNUWeebBot.Model.Tstack

/-!
# The index stack as the code stores it

`lib/tstack.h` once more, with the widths of its integers, its array and its `TASSERT`s.
`Tstack` has natural numbers and an array without an end, and the server's allocators
are modelled by it. `TstackArr.toTstack` leads from the one to the other.
-/

namespace GNUWeebBot

/-- What `lib/tstack.h` must not do. -/
inductive TssFault
  | tassert
  | outOfRange -- `arr[i]` behind the end of the array
deriving DecidableEq

/-- `struct tstack` with the array it points to. -/
structure TstackArr where
  sp : UInt32
  capacity : UInt32
  arr : List UInt32
deriving DecidableEq

namespace TstackArr

open Fill

abbrev Tss := Fill TssFault TstackArr

/-- `tss_init`, where `calloc` finds the memory. -/
def tssInit (capacity : UInt32) : TstackArr where
  sp := capacity
  capacity := capacity
  arr := List.replicate capacity.toNat 0

def tassert (expr : TstackArr → Bool) : Tss Unit := fun st =>
  if expr st then .next () st else .fault .tassert st

/-- `st->arr[i]` -/
def load (i : UInt32) : Tss UInt32 := fun st =>
  match st.arr[i.toNat]? with
  | some val => .next val st
  | none => .fault .outOfRange st

/-- `st->arr[i] = val` -/
def store (i val : UInt32) : Tss Unit := fun st =>
  if i.toNat < st.arr.length then .next () { st with arr := st.arr.set i.toNat val }
  else .fault .outOfRange st

/-- Stack pointer must never be greater than the capacity. -/
def assertSp : Tss Unit := tassert (fun st => decide (st.sp ≤ st.capacity))

def tssCount : Tss UInt32 := do
  let cap ← read TstackArr.capacity
  let sp ← read TstackArr.sp
  assertSp
  pure (cap - sp)

def tssPush (val : UInt32) : Tss Int64 := do
  let sp ← read TstackArr.sp
  assertSp
  if sp = 0 then pure (-1)
  else do
    store (sp - 1) val
    modify (fun st => { st with sp := sp - 1 })
    pure (Int64.ofNat val.toNat)

def tssPop : Tss Int64 := do
  let cap ← read TstackArr.capacity
  let sp ← read TstackArr.sp
  assertSp
  if sp = cap then pure (-1)
  else do
    let ret ← load sp
    modify (fun st => { st with sp := sp + 1 })
    pure (Int64.ofNat ret.toNat)

/-- The stack in the model of the server. -/
def toTstack (st : TstackArr) : Tstack where
  sp := st.sp.toNat
  capacity := st.capacity.toNat
  arr i := (st.arr.getD i 0).toNat

end TstackArr

/-- What a user of the stack calls. -/
inductive TssOp
  | push (val : UInt32)
  | pop
deriving DecidableEq

def tssOp : TssOp → TstackArr.Tss Int64
  | .push val => TstackArr.tssPush val
  | .pop => TstackArr.tssPop

end GNUWeebBot
