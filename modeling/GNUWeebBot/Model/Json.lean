import GNUWeebBot.Model.Base
import Mathlib.Data.List.TakeWhile

/-!
# JSON values as json-c has them

The part of json-c that the bot reads values with. A `json_object *` that is `NULL` is the
JSON null. A C string is its bytes up to the terminator; a pointer to one is an `Option`,
`none` for `NULL`.
-/

namespace GNUWeebBot

/-- A pointer to a C string. -/
abbrev CharPtr : Type := Option (List UInt8)

/-- The bytes of a string literal. -/
def ascii (s : String) : List UInt8 := s.toList.map (fun c => UInt8.ofNat c.toNat)

lemma length_ascii (s : String) : (ascii s).length = s.length := by
  rw [ascii, List.length_map, String.length_toList]

/-- The C string at the start of some bytes. -/
def cString (bytes : List UInt8) : List UInt8 := bytes.takeWhile (fun c => c != 0)

lemma cString_terminated {s : List UInt8} (hzero : 0 ∉ s) : cString (s ++ [0]) = s := by
  have hne : ∀ c ∈ s, (c != 0) = true := fun c hc => bne_iff_ne.mpr (fun h => hzero (h ▸ hc))
  rw [cString, List.takeWhile_append_of_pos hne]
  exact List.append_nil s

lemma cString_self {s : List UInt8} (hzero : 0 ∉ s) : cString s = s :=
  List.takeWhile_eq_self_iff.mpr (fun _ hc => bne_iff_ne.mpr (fun h => hzero (h ▸ hc)))

/-- A double has the text it was parsed from, its value truncated towards zero, and whether it
is zero. -/
inductive Json
  | null
  | bool (b : Bool)
  | int (i : ℤ)
  | double (text : List UInt8) (trunc : ℤ) (isZero : Bool)
  | string (s : List UInt8)
  | array (elems : List Json)
  | object (fields : List (List UInt8 × Json))

/-! ### Serialisation, for `json_object_get_string` -/

def hexDigit (n : ℕ) : UInt8 := if n < 10 then UInt8.ofNat (48 + n) else UInt8.ofNat (87 + n)

def jsonEscapeChar (c : UInt8) : List UInt8 :=
  if c = 8 then ascii "\\b"
  else if c = 10 then ascii "\\n"
  else if c = 13 then ascii "\\r"
  else if c = 9 then ascii "\\t"
  else if c = 12 then ascii "\\f"
  else if c = 34 then ascii "\\\""
  else if c = 92 then ascii "\\\\"
  else if c = 47 then ascii "\\/"
  else if c < 32 then ascii "\\u00" ++ [hexDigit (c.toNat / 16), hexDigit (c.toNat % 16)]
  else [c]

def jsonEscapeStr (s : List UInt8) : List UInt8 := s.flatMap jsonEscapeChar

mutual

/-- `json_object_to_json_string`, in its default spaced format. -/
def Json.toJsonString : Json → List UInt8
  | .null => ascii "null"
  | .bool b => if b then ascii "true" else ascii "false"
  | .int i => ascii (toString i)
  | .double text _ _ => text
  | .string s => ascii "\"" ++ jsonEscapeStr s ++ ascii "\""
  | .array elems => ascii "[" ++ elemsToJsonString true elems ++ ascii " ]"
  | .object fields => ascii "\x7b" ++ fieldsToJsonString true fields ++ ascii " \x7d"

def elemsToJsonString (first : Bool) : List Json → List UInt8
  | [] => []
  | j :: rest => (if first then [] else ascii ",") ++ ascii " " ++ j.toJsonString ++ elemsToJsonString false rest

def fieldsToJsonString (first : Bool) : List (List UInt8 × Json) → List UInt8
  | [] => []
  | (key, j) :: rest => (if first then [] else ascii ",") ++ ascii " \"" ++ jsonEscapeStr key ++ ascii "\": " ++
      j.toJsonString ++ fieldsToJsonString false rest

end

/-! ### Numbers in strings -/

def isDigit (c : UInt8) : Bool := 48 ≤ c && c ≤ 57

/-- `isspace` in the C locale. -/
def isSpace (c : UInt8) : Bool := c == 32 || (9 ≤ c && c ≤ 13)

def decimal (digits : List UInt8) : ℕ := digits.foldl (fun n c => 10 * n + (c.toNat - 48)) 0

/-- What `strtoll` and `strtoull` read: the sign and the number, `none` where there is no digit. -/
def strtoDecimal (s : List UInt8) : Option (Bool × ℕ) :=
  let s := s.dropWhile isSpace
  let (neg, s) := match s with
    | 45 :: rest => (true, rest)
    | 43 :: rest => (false, rest)
    | _ => (false, s)
  let digits := s.takeWhile isDigit
  if digits.isEmpty then none else some (neg, decimal digits)

def INT64_MAX : ℤ := 2 ^ 63 - 1
def INT64_MIN : ℤ := -2 ^ 63
def UINT64_MAX : ℕ := 2 ^ 64 - 1

/-- `json_parse_int64`. -/
def jsonParseInt64 (s : List UInt8) : Option ℤ :=
  (strtoDecimal s).map (fun (neg, n) =>
    if neg then max INT64_MIN (-(n : ℤ)) else min INT64_MAX n)

/-- `json_parse_uint64`; `strtoull` negates modulo `2^64`. -/
def jsonParseUint64 (s : List UInt8) : Option ℕ :=
  let s := s.dropWhile (fun c => c == 32)
  if s.head? = some 45 then none
  else (strtoDecimal s).map (fun (neg, n) =>
    if n > UINT64_MAX then UINT64_MAX else if neg then (2 ^ 64 - n) % 2 ^ 64 else n)

/-! ### Accessors -/

namespace Json

/-- `json_object_object_get_ex`: `none` where it returns false. -/
def getEx (jso : Json) (key : String) : Option Json :=
  match jso with
  | .object fields => (fields.find? (fun f => f.1 == ascii key)).map Prod.snd
  | _ => none

/-- `json_object_get_string`. -/
def getString : Json → Option (List UInt8)
  | .null => none
  | .string s => some (cString s)
  | jso => some jso.toJsonString

def getBoolean : Json → Bool
  | .bool b => b
  | .int i => i != 0
  | .double _ _ isZero => !isZero
  | .string s => s.length != 0
  | _ => false

def getInt64 : Json → ℤ
  | .bool b => if b then 1 else 0
  | .int i => min INT64_MAX i
  | .double _ trunc _ => max INT64_MIN (min INT64_MAX trunc)
  | .string s => (jsonParseInt64 (cString s)).getD 0
  | _ => 0

def getUint64 : Json → ℕ
  | .bool b => if b then 1 else 0
  | .int i => i.toNat
  | .double _ trunc _ => min UINT64_MAX trunc.toNat
  | .string s => (jsonParseUint64 (cString s)).getD 0
  | _ => 0

/-- The elements, where `json_object_array_length` does not assert. -/
def array? : Json → Option (List Json)
  | .array elems => some elems
  | _ => none

def isNull : Json → Bool
  | .null => true
  | _ => false

/-- An optional string: `NULL` also where the key is missing. -/
def optString (jso : Json) (key : String) : Option (List UInt8) := (jso.getEx key).bind getString

/-- An optional number, zero where the key is missing. -/
def optUint64 (jso : Json) (key : String) : ℕ := ((jso.getEx key).map getUint64).getD 0

/-- What a lookup finds is a part of the object. -/
lemma sizeOf_getEx {jso res : Json} {key : String} (h : jso.getEx key = some res) :
    sizeOf res < sizeOf jso := by
  cases jso with
  | object fields =>
    simp only [getEx, Option.map_eq_some_iff] at h
    obtain ⟨field, hfind, rfl⟩ := h
    have hmem := List.sizeOf_lt_of_mem (List.mem_of_find?_eq_some hfind)
    have hfield : sizeOf field.2 < sizeOf field := by
      cases field
      simp only [Prod.mk.sizeOf_spec]
      omega
    simp only [object.sizeOf_spec]
    omega
  | _ => cases h

lemma getString_eq_none {jso : Json} : jso.getString = none ↔ jso = .null := by
  cases jso <;> simp [getString]

end Json

end GNUWeebBot
