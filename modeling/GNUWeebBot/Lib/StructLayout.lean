import Mathlib.Algebra.Order.Ring.Nat
import Mathlib.Tactic.Common

/-!
# C structs in memory

A value of a C struct with the bytes it takes, under the LP64 rules: members in order, each at
the next multiple of its alignment, zeros in the padding, little-endian integers. A pointer is
`NULL` or the address of an object; `addr` gives that address from the kind of the object and
the offset of the pointer.
-/

inductive CVal (κ : Type)
  | int (size n : ℕ)
  | chars (size : ℕ) (s : List UInt8)
  | ptr (kind : κ) (present : Bool)
  | struct (members : List (String × CVal κ))

namespace CVal

def toBytes : ℕ → ℕ → List UInt8
  | 0, _ => []
  | size + 1, n => UInt8.ofNat (n % 256) :: toBytes size (n / 256)

def ofBytes : List UInt8 → ℕ
  | [] => 0
  | b :: bytes => b.toNat + 256 * ofBytes bytes

lemma ofBytes_toBytes (size n : ℕ) : ofBytes (toBytes size n) = n % 256 ^ size := by
  induction size generalizing n with
  | zero => simp [toBytes, ofBytes, Nat.mod_one]
  | succ size ih =>
    have hbyte : (UInt8.ofNat (n % 256)).toNat = n % 256 := by simp
    rw [toBytes, ofBytes, ih, hbyte, pow_succ', Nat.mod_mul]

lemma ofBytes_append_zeros (bytes : List UInt8) (k : ℕ) : ofBytes (bytes ++ List.replicate k 0) = ofBytes bytes := by
  induction bytes with
  | nil =>
    induction k with
    | zero => rfl
    | succ k ih => simp_all [List.replicate_succ, ofBytes]
  | cons b bytes ih => simp [ofBytes, ih]

def alignUp (n align : ℕ) : ℕ := (n + align - 1) / align * align

/-- The padding before a member. -/
def pad (off align : ℕ) : List UInt8 := List.replicate (alignUp off align - off) 0

variable {κ : Type}

mutual

def align : CVal κ → ℕ
  | .int size _ => size
  | .chars _ _ => 1
  | .ptr _ _ => 8
  | .struct members => alignAll members

def alignAll : List (String × CVal κ) → ℕ
  | [] => 1
  | (_, v) :: members => max v.align (alignAll members)

end

mutual

/-- The bytes from `off` to the end of a value that is put after `off`. -/
def place (addr : κ → ℕ → ℕ) (off : ℕ) : CVal κ → List UInt8
  | .int size n => pad off size ++ toBytes size n
  | .chars size s => (List.range size).map (fun i => s.getD i 0)
  | .ptr kind present => pad off 8 ++ toBytes 8 (if present then addr kind (alignUp off 8) else 0)
  | .struct members =>
    let start := alignUp off (alignAll members)
    let body := placeAll addr start members
    pad off (alignAll members) ++ body ++ pad (start + body.length) (alignAll members)

def placeAll (addr : κ → ℕ → ℕ) (off : ℕ) : List (String × CVal κ) → List UInt8
  | [] => []
  | (_, v) :: members =>
    let bytes := v.place addr off
    bytes ++ placeAll addr (off + bytes.length) members

end

mutual

/-- How many bytes `place` takes. -/
def extent (off : ℕ) : CVal κ → ℕ
  | .int size _ => alignUp off size - off + size
  | .chars size _ => size
  | .ptr _ _ => alignUp off 8 - off + 8
  | .struct members =>
    let start := alignUp off (alignAll members)
    let stop := start + extentAll start members
    start - off + extentAll start members + (alignUp stop (alignAll members) - stop)

def extentAll (off : ℕ) : List (String × CVal κ) → ℕ
  | [] => 0
  | (_, v) :: members => v.extent off + extentAll (off + v.extent off) members

end

def offsetFrom (off : ℕ) (name : String) : List (String × CVal κ) → ℕ
  | [] => off
  | (name', v) :: members =>
    if name' = name then alignUp off v.align else offsetFrom (off + v.extent off) name members

/-- `offsetof`. -/
def offsetOf (members : List (String × CVal κ)) (name : String) : ℕ := offsetFrom 0 name members

/-- The pointer that is read at an offset of a struct. -/
def loadPtr (addr : κ → ℕ → ℕ) (members : List (String × CVal κ)) (off : ℕ) : ℕ :=
  ofBytes (((placeAll addr 0 members).drop off).take 8)

/-! ### Reading members -/

@[simp] lemma length_toBytes (size n : ℕ) : (toBytes size n).length = size := by
  induction size generalizing n with
  | zero => rfl
  | succ size ih => simp [toBytes, ih]

@[simp] lemma length_pad (off align : ℕ) : (pad off align).length = alignUp off align - off := by
  simp [pad]

variable (addr : κ → ℕ → ℕ)

mutual

lemma length_place (off : ℕ) : ∀ v : CVal κ, (v.place addr off).length = v.extent off
  | .int size n => by simp [place, extent]
  | .chars size s => by simp [place, extent]
  | .ptr kind present => by simp [place, extent]
  | .struct members => by
    have hbody := length_placeAll (alignUp off (alignAll members)) members
    simp [place, extent, hbody, Nat.add_assoc]

lemma length_placeAll (off : ℕ) : ∀ members : List (String × CVal κ),
    (placeAll addr off members).length = extentAll off members
  | [] => rfl
  | (_, v) :: members => by
    have hv := length_place off v
    have hmembers := length_placeAll (off + v.extent off) members
    simp [placeAll, extentAll, hv, hmembers]

end

lemma placeAll_append (off : ℕ) (front rest : List (String × CVal κ)) :
    placeAll addr off (front ++ rest) = placeAll addr off front ++ placeAll addr (off + extentAll off front) rest := by
  induction front generalizing off with
  | nil => simp [placeAll, extentAll]
  | cons m front ih =>
    obtain ⟨name, v⟩ := m
    simp only [List.cons_append, placeAll, extentAll, length_place, ih, List.append_assoc, Nat.add_assoc]

lemma extentAll_append (off : ℕ) (front rest : List (String × CVal κ)) :
    extentAll off (front ++ rest) = extentAll off front + extentAll (off + extentAll off front) rest := by
  induction front generalizing off with
  | nil => simp [extentAll]
  | cons m front ih =>
    obtain ⟨name, v⟩ := m
    simp only [List.cons_append, extentAll, ih, Nat.add_assoc]

/-- The members that start at `off` have these bytes at the offset `pos`. -/
def BytesAt (off : ℕ) (members : List (String × CVal κ)) (pos : ℕ) (bytes : List UInt8) : Prop :=
  ∃ before after, placeAll addr off members = before ++ (bytes ++ after) ∧ off + before.length = pos

variable {addr} {off pos : ℕ} {bytes : List UInt8} {members rest : List (String × CVal κ)}

lemma BytesAt.later (front : List (String × CVal κ)) (h : BytesAt addr (off + extentAll off front) rest pos bytes) :
    BytesAt addr off (front ++ rest) pos bytes := by
  obtain ⟨before, after, hplace, hpos⟩ := h
  refine ⟨placeAll addr off front ++ before, after, ?_, ?_⟩
  · rw [placeAll_append, hplace, List.append_assoc]
  · rw [List.length_append, length_placeAll, ← hpos, Nat.add_assoc]

lemma BytesAt.inStruct (name : String) (hoff : alignUp off (alignAll members) = off)
    (h : BytesAt addr off members pos bytes) : BytesAt addr off ((name, .struct members) :: rest) pos bytes := by
  obtain ⟨before, after, hplace, hpos⟩ := h
  have hpad : pad off (alignAll members) = [] := by simp [pad, hoff]
  let after' := pad (off + (placeAll addr off members).length) (alignAll members) ++
    placeAll addr (off + extent off (.struct members)) rest
  have hcons : placeAll addr off ((name, .struct members) :: rest) = placeAll addr off members ++ after' := by
    rw [placeAll, length_place, place, hoff, hpad, List.nil_append, List.append_assoc]
  refine ⟨before, after ++ after', ?_, hpos⟩
  rw [hcons, hplace, List.append_assoc, List.append_assoc]

lemma le_alignUp (n : ℕ) {align : ℕ} (h : 0 < align) : n ≤ alignUp n align := by
  have hdiv := Nat.div_add_mod (n + align - 1) align
  have hmod := Nat.mod_lt (n + align - 1) h
  rw [Nat.mul_comm] at hdiv
  unfold alignUp
  omega

lemma bytesAt_ptr (name : String) (kind : κ) (present : Bool) (hpos : alignUp off 8 = pos) :
    BytesAt addr off ((name, .ptr kind present) :: rest) pos (toBytes 8 (if present then addr kind pos else 0)) := by
  refine ⟨pad off 8, placeAll addr (off + extent off (.ptr kind present)) rest, ?_, ?_⟩
  · rw [placeAll, length_place, place, List.append_assoc, hpos]
  · have hle := le_alignUp off (show 0 < 8 by decide)
    rw [length_pad]
    omega

/-- A small integer before a pointer has zeros after it. -/
lemma bytesAt_int_ptr (name name' : String) (size n : ℕ) (kind : κ) (present : Bool) (hoff : alignUp off size = off) :
    BytesAt addr off ((name, .int size n) :: (name', .ptr kind present) :: rest) off
      (toBytes size n ++ pad (off + size) 8) := by
  have hpad : pad off size = [] := by simp [pad, hoff]
  refine ⟨[], toBytes 8 (if present then addr kind (alignUp (off + size) 8) else 0) ++
    placeAll addr (off + size + extent (off + size) (.ptr kind present)) rest, ?_, rfl⟩
  rw [placeAll, place, hpad, List.nil_append, length_toBytes, placeAll, length_place, place]
  simp only [List.append_assoc, List.nil_append]

lemma BytesAt.loadPtr_eq (h : BytesAt addr 0 members pos bytes) (hlen : bytes.length = 8) :
    loadPtr addr members pos = ofBytes bytes := by
  obtain ⟨before, after, hplace, hpos⟩ := h
  have hdrop : (placeAll addr 0 members).drop pos = bytes ++ after := by
    rw [hplace, ← hpos, Nat.zero_add, List.drop_left]
  rw [loadPtr, hdrop, ← hlen, List.take_left]

lemma offsetFrom_append (name : String) (off : ℕ) (front : List (String × CVal κ)) (v : CVal κ)
    (hname : ∀ m ∈ front, m.1 ≠ name) :
    offsetFrom off name (front ++ (name, v) :: rest) = alignUp (off + extentAll off front) v.align := by
  induction front generalizing off with
  | nil => simp [offsetFrom, extentAll]
  | cons m front ih =>
    obtain ⟨name', v'⟩ := m
    have hne : name' ≠ name := hname (name', v') List.mem_cons_self
    have hrest := ih (off + v'.extent off) (fun m hm => hname m (List.mem_cons_of_mem _ hm))
    simp only [List.cons_append, offsetFrom, if_neg hne, hrest, extentAll, Nat.add_assoc]

/-- A pointer read at its own offset is the pointer that was stored. -/
theorem loadPtr_offsetOf (name : String) (front : List (String × CVal κ)) (kind : κ) (present : Bool)
    (hname : ∀ m ∈ front, m.1 ≠ name) (hmembers : members = front ++ (name, .ptr kind present) :: rest) :
    loadPtr addr members (offsetOf members name) =
      (if present then addr kind (offsetOf members name) else 0) % 2 ^ 64 := by
  have hoffset : offsetOf members name = alignUp (0 + extentAll 0 front) 8 := by
    rw [hmembers]
    exact offsetFrom_append name 0 front (.ptr kind present) hname
  have hbytes : BytesAt addr 0 members (offsetOf members name)
      (toBytes 8 (if present then addr kind (offsetOf members name) else 0)) := by
    rw [hoffset, hmembers]
    exact (bytesAt_ptr name kind present rfl).later front
  rw [hbytes.loadPtr_eq (length_toBytes 8 _), ofBytes_toBytes]
  rfl

end CVal
