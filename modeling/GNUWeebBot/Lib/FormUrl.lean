import Mathlib.Data.List.Basic
import Mathlib.Tactic.Common

/-!
# Form-urlencoded bodies

A body is a list of fields joined with `&`, and a field is a name and a value joined with `=`.
`formDecode` is what a server reads out of a body.
-/

namespace FormUrl

def hexValue (c : UInt8) : Option UInt8 :=
  if 48 ≤ c ∧ c ≤ 57 then some (c - 48)
  else if 65 ≤ c ∧ c ≤ 70 then some (c - 55)
  else if 97 ≤ c ∧ c ≤ 102 then some (c - 87)
  else none

/-- `%XY` is a byte and `+` is a space; a `%` without two digits after it is itself. -/
def percentDecode : List UInt8 → List UInt8
  | [] => []
  | c :: rest =>
    if c = 43 then 32 :: percentDecode rest
    else if c = 37 then
      match rest with
      | high :: low :: rest' =>
        match hexValue high, hexValue low with
        | some h, some l => (16 * h + l) :: percentDecode rest'
        | _, _ => c :: percentDecode (high :: low :: rest')
      | rest => c :: percentDecode rest
    else c :: percentDecode rest

def decodeField (field : List UInt8) : List UInt8 × List UInt8 :=
  (percentDecode (field.takeWhile (fun c => c != 61)), percentDecode ((field.dropWhile (fun c => c != 61)).drop 1))

/-- The fields in their order; an empty part between two `&` is none. -/
def formDecode (body : List UInt8) : List (List UInt8 × List UInt8) :=
  ((body.splitOn 38).filter (fun field => !field.isEmpty)).map decodeField

/-! ### Escaped text -/

/-- `%XY` is a byte, and a `+` is what the text has it for: itself, or the space of a form. -/
def unescape (plus : UInt8) : List UInt8 → List UInt8
  | [] => []
  | c :: rest =>
    if c = 43 then plus :: unescape plus rest
    else if c = 37 then
      match rest with
      | high :: low :: rest' =>
        match hexValue high, hexValue low with
        | some h, some l => (16 * h + l) :: unescape plus rest'
        | _, _ => c :: unescape plus (high :: low :: rest')
      | rest => c :: unescape plus rest
    else c :: unescape plus rest

def IsUnreserved (c : UInt8) : Prop :=
  (65 ≤ c ∧ c ≤ 90) ∨ (97 ≤ c ∧ c ≤ 122) ∨ (48 ≤ c ∧ c ≤ 57) ∨ c = 45 ∨ c = 46 ∨ c = 95

def IsUpperHex (c : UInt8) : Prop := (48 ≤ c ∧ c ≤ 57) ∨ (65 ≤ c ∧ c ≤ 70)

instance (c : UInt8) : Decidable (IsUnreserved c) := by
  unfold IsUnreserved
  infer_instance

instance (c : UInt8) : Decidable (IsUpperHex c) := by
  unfold IsUpperHex
  infer_instance

/-- The texts of escapes and of bytes that need none: a `~` does not in a raw text, and in a form a `+`
is a space. -/
inductive UrlText (raw : Bool) : List UInt8 → Prop
  | nil : UrlText raw []
  | plain {c : UInt8} {rest : List UInt8} : IsUnreserved c → UrlText raw rest → UrlText raw (c :: rest)
  | tilde {rest : List UInt8} : raw = true → UrlText raw rest → UrlText raw (126 :: rest)
  | plus {rest : List UInt8} : raw = false → UrlText raw rest → UrlText raw (43 :: rest)
  | hex {high low : UInt8} {rest : List UInt8} : IsUpperHex high → IsUpperHex low → UrlText raw rest →
    UrlText raw (37 :: high :: low :: rest)

variable {enc : UInt8 → List UInt8} {s : List UInt8}

lemma unescape_plain {plus c : UInt8} (rest : List UInt8) (hplus : c ≠ 43) (hpercent : c ≠ 37) :
    unescape plus (c :: rest) = c :: unescape plus rest := by
  conv_lhs => unfold unescape
  rw [if_neg hplus, if_neg hpercent]

lemma unescape_plus (plus : UInt8) (rest : List UInt8) : unescape plus (43 :: rest) = plus :: unescape plus rest := by
  conv_lhs => unfold unescape
  rw [if_pos rfl]

lemma unescape_hex {plus high low h l : UInt8} (rest : List UInt8) (hh : hexValue high = some h)
    (hl : hexValue low = some l) : unescape plus (37 :: high :: low :: rest) = (16 * h + l) :: unescape plus rest := by
  have hne : (37 : UInt8) ≠ 43 := by decide
  rw [unescape, if_neg hne, if_pos rfl]
  simp only [hh, hl]

/-- A form is read with the space for a `+`. -/
lemma unescape_space (s : List UInt8) : unescape 32 s = percentDecode s := by
  fun_induction percentDecode s with
  | case1 => rfl
  | case2 rest ih => rw [unescape_plus, ih]
  | case3 high low rest h l hl hh _ ih => rw [unescape_hex rest hh hl, ih]
  | case4 high low rest hbad hne ih =>
    rw [← ih, unescape, if_neg hne, if_pos rfl]
    split
    · rename_i hh hl
      exact absurd hl (hbad _ _ hh)
    · rfl
  | case5 rest hshort hne ih =>
    rw [← ih, unescape, if_neg hne, if_pos rfl]
    exact hshort
  | case6 c rest hplus hpercent ih => rw [unescape_plain rest hplus hpercent, ih]

lemma unescape_flatMap {plus : UInt8} (h : ∀ c ∈ s, ∀ rest, unescape plus (enc c ++ rest) = c :: unescape plus rest)
    (rest : List UInt8) : unescape plus (s.flatMap enc ++ rest) = s ++ unescape plus rest := by
  induction s with
  | nil => rfl
  | cons c s ih =>
    rw [List.forall_mem_cons] at h
    rw [List.flatMap_cons, List.append_assoc, h.1, ih h.2, List.cons_append]

lemma UrlText.append {raw : Bool} {t u : List UInt8} (ht : UrlText raw t) (hu : UrlText raw u) : UrlText raw (t ++ u) := by
  induction ht with
  | nil => exact hu
  | plain hc _ ih => exact .plain hc ih
  | tilde hraw _ ih => exact .tilde hraw ih
  | plus hraw _ ih => exact .plus hraw ih
  | hex hhigh hlow _ ih => exact .hex hhigh hlow ih

lemma UrlText.flatMap {raw : Bool} (h : ∀ c ∈ s, UrlText raw (enc c)) : UrlText raw (s.flatMap enc) := by
  induction s with
  | nil => exact .nil
  | cons c s ih =>
    rw [List.forall_mem_cons] at h
    exact h.1.append (ih h.2)

lemma IsUnreserved.clean {c : UInt8} (h : IsUnreserved c) : c ≠ 38 ∧ c ≠ 61 ∧ c ≠ 0 := by
  refine ⟨?_, ?_, ?_⟩ <;> rintro rfl <;> exact absurd h (by decide)

lemma IsUpperHex.clean {c : UInt8} (h : IsUpperHex c) : c ≠ 38 ∧ c ≠ 61 ∧ c ≠ 0 := by
  refine ⟨?_, ?_, ?_⟩ <;> rintro rfl <;> exact absurd h (by decide)

/-- It has no separator and no NUL in it. -/
lemma UrlText.clean {raw : Bool} {t : List UInt8} (ht : UrlText raw t) : ∀ d ∈ t, d ≠ 38 ∧ d ≠ 61 ∧ d ≠ 0 := by
  induction ht with
  | nil => exact fun d hd => absurd hd List.not_mem_nil
  | plain hc _ ih => exact List.forall_mem_cons.mpr ⟨hc.clean, ih⟩
  | tilde _ _ ih => exact List.forall_mem_cons.mpr ⟨by decide, ih⟩
  | plus _ _ ih => exact List.forall_mem_cons.mpr ⟨by decide, ih⟩
  | hex hhigh hlow _ ih =>
    rw [List.forall_mem_cons, List.forall_mem_cons, List.forall_mem_cons]
    exact ⟨by decide, hhigh.clean, hlow.clean, ih⟩

/-! ### Percent encoding -/

lemma percentDecode_plain {c : UInt8} (rest : List UInt8) (hplus : c ≠ 43) (hpercent : c ≠ 37) :
    percentDecode (c :: rest) = c :: percentDecode rest := by
  rw [← unescape_space, unescape_plain rest hplus hpercent, unescape_space]

/-- A property of every byte of a fixed text. -/
lemma forall_mem_of_all {p : UInt8 → Prop} [DecidablePred p] {s : List UInt8} (h : s.all (fun c => decide (p c)) = true) :
    ∀ c ∈ s, p c := by
  simpa using h

lemma percentDecode_of_plain {s : List UInt8} (h : ∀ c ∈ s, c ≠ 43 ∧ c ≠ 37) : percentDecode s = s := by
  induction s with
  | nil => rfl
  | cons c s ih =>
    rw [List.forall_mem_cons] at h
    rw [percentDecode_plain s h.1.1 h.1.2, ih h.2]

/-! ### Fields -/

def joinField (field : List UInt8 × List UInt8) : List UInt8 := field.1 ++ 61 :: field.2

lemma decodeField_joinField {name value : List UInt8} (hname : 61 ∉ name) :
    decodeField (joinField (name, value)) = (percentDecode name, percentDecode value) := by
  have hall : ∀ c ∈ name, (c != 61) = true := by
    intro c hc
    have hne : c ≠ 61 := fun h => hname (h ▸ hc)
    simpa using hne
  simp only [decodeField, joinField]
  rw [List.takeWhile_append_of_pos hall, List.dropWhile_append_of_pos hall]
  simp

/-- What the server reads out of fields that were joined. -/
lemma formDecode_join {fields : List (List UInt8 × List UInt8)} (hne : fields ≠ [])
    (h : ∀ f ∈ fields, 38 ∉ f.1 ∧ 61 ∉ f.1 ∧ 38 ∉ f.2) :
    formDecode ([38].intercalate (fields.map joinField)) =
      fields.map (fun f => (percentDecode f.1, percentDecode f.2)) := by
  have hclean : ∀ l ∈ fields.map joinField, (38 : UInt8) ∉ l := by
    intro l hl
    rw [List.mem_map] at hl
    obtain ⟨f, hf, rfl⟩ := hl
    simp [joinField, (h f hf).1, (h f hf).2.2]
  have hfull : ∀ l ∈ fields.map joinField, (!l.isEmpty) = true := by
    intro l hl
    rw [List.mem_map] at hl
    obtain ⟨f, hf, rfl⟩ := hl
    simp [joinField]
  rw [formDecode, List.splitOn_intercalate 38 hclean (by simpa using hne), List.filter_eq_self.mpr hfull, List.map_map]
  apply List.map_congr_left
  intro f hf
  exact decodeField_joinField (h f hf).2.1

end FormUrl
