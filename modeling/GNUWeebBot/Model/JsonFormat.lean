import GNUWeebBot.Lib.JsonText
import GNUWeebBot.Model.Json

/-!
# Formatted JSON

`json_object_to_json_string_ext`, whose flags say where it puts white space and whether it escapes a
slash.
-/

namespace GNUWeebBot

/-- The flags; `JSON_C_TO_STRING_NOZERO` is only for doubles that were not parsed. -/
structure ToStringFlags where
  spaced : Bool
  pretty : Bool
  prettyTab : Bool
  noSlashEscape : Bool

def indent (flags : ToStringFlags) (level : ℕ) : List UInt8 :=
  if flags.pretty then
    if flags.prettyTab then List.replicate level 9 else List.replicate (level * 2) 32
  else []

def jsonEscapeCharExt (flags : ToStringFlags) (c : UInt8) : List UInt8 :=
  if flags.noSlashEscape = true ∧ c = 47 then [c] else jsonEscapeChar c

def newLine (flags : ToStringFlags) : List UInt8 := if flags.pretty then [10] else []

/-- In front of an element, after the comma or what the array starts with. -/
def elementSpace (flags : ToStringFlags) (level : ℕ) : List UInt8 :=
  (if flags.spaced && !flags.pretty then [32] else []) ++ indent flags (level + 1)

/-- In front of the end of an array or object. -/
def closingSpace (flags : ToStringFlags) (level : ℕ) (hadChildren : Bool) : List UInt8 :=
  (if flags.pretty then (if hadChildren then [10] else []) ++ indent flags level else []) ++
    (if flags.spaced && !flags.pretty then [32] else [])

mutual

def Json.toJsonStringExt (flags : ToStringFlags) (level : ℕ) : Json → List UInt8
  | .null => ascii "null"
  | .bool b => if b then ascii "true" else ascii "false"
  | .int i => ascii (toString i)
  | .double text _ _ => text
  | .string s => ascii "\"" ++ s.flatMap (jsonEscapeCharExt flags) ++ ascii "\""
  | .array elems =>
    ascii "[" ++ newLine flags ++ elemsToJsonStringExt flags level false elems ++ closingSpace flags level (!elems.isEmpty) ++
      ascii "]"
  | .object fields =>
    ascii "\x7b" ++ newLine flags ++ fieldsToJsonStringExt flags level false fields ++
      closingSpace flags level (!fields.isEmpty) ++ ascii "\x7d"

def elemsToJsonStringExt (flags : ToStringFlags) (level : ℕ) (hadChildren : Bool) : List Json → List UInt8
  | [] => []
  | j :: rest =>
    (if hadChildren then ascii "," ++ newLine flags else []) ++ elementSpace flags level ++
      j.toJsonStringExt flags (level + 1) ++ elemsToJsonStringExt flags level true rest

def fieldsToJsonStringExt (flags : ToStringFlags) (level : ℕ) (hadChildren : Bool) : List (List UInt8 × Json) → List UInt8
  | [] => []
  | (key, j) :: rest =>
    (if hadChildren then ascii "," ++ newLine flags else []) ++ elementSpace flags level ++
      ascii "\"" ++ key.flatMap (jsonEscapeCharExt flags) ++ (if flags.spaced then ascii "\": " else ascii "\":") ++
      j.toJsonStringExt flags (level + 1) ++ fieldsToJsonStringExt flags level true rest

end

/-! ### The value of a text

What the JSON standard makes of a value. json-c also takes numbers that the standard does not have, such
as `1.` or `NaN`; a double with such a text has no value. -/

def number? (text : List UInt8) : Option JsonText.Value :=
  if h : JsonText.isNumber text = true then some (.number ⟨text, h⟩) else none

mutual

def Json.value? : Json → Option JsonText.Value
  | .null => some .null
  | .bool b => some (.bool b)
  | .int i => number? (ascii (toString i))
  | .double text _ _ => number? text
  | .string s => some (.string s)
  | .array elems => (elemsValue? elems).map .array
  | .object fields => (fieldsValue? fields).map .object

def elemsValue? : List Json → Option (List JsonText.Value)
  | [] => some []
  | j :: rest => j.value?.bind (fun v => (elemsValue? rest).map (fun vs => v :: vs))

def fieldsValue? : List (List UInt8 × Json) → Option (List (List UInt8 × JsonText.Value))
  | [] => some []
  | (key, j) :: rest => j.value?.bind (fun v => (fieldsValue? rest).map (fun vs => (key, v) :: vs))

end

mutual

/-- Every double has the text of a JSON number. -/
def Json.doublesOk : Json → Bool
  | .double text _ _ => JsonText.isNumber text
  | .array elems => elemsDoublesOk elems
  | .object fields => fieldsDoublesOk fields
  | .null | .bool _ | .int _ | .string _ => true

def elemsDoublesOk : List Json → Bool
  | [] => true
  | j :: rest => j.doublesOk && elemsDoublesOk rest

def fieldsDoublesOk : List (List UInt8 × Json) → Bool
  | [] => true
  | (_, j) :: rest => j.doublesOk && fieldsDoublesOk rest

end

end GNUWeebBot
