import GNUWeebBot.Model.JsonFormat
import GNUWeebBot.Proofs.FormBody

/-!
# Formatted JSON can be read back

Whatever the flags are, a JSON reader gets out of a serialised value what was serialised.
-/

namespace GNUWeebBot.Proofs

open JsonText Words

/-! ### The style of json-c -/

lemma isBlank_indent (flags : ToStringFlags) (level : ℕ) : ∀ c ∈ indent flags level, isBlank c = true := by
  intro c hc
  unfold indent at hc
  split at hc
  · split at hc
    · rw [List.eq_of_mem_replicate hc]
      rfl
    · rw [List.eq_of_mem_replicate hc]
      rfl
  · cases hc

/-- The white space before an element, or before the end. -/
def leadSpace (flags : ToStringFlags) (level : ℕ) : List UInt8 :=
  newLine flags ++ ((if flags.spaced && !flags.pretty then [32] else []) ++ indent flags level)

lemma isBlank_leadSpace (flags : ToStringFlags) (level : ℕ) : ∀ c ∈ leadSpace flags level, isBlank c = true := by
  intro c hc
  unfold leadSpace newLine at hc
  rw [List.mem_append, List.mem_append] at hc
  rcases hc with hc | hc | hc
  · split at hc
    · rw [List.mem_singleton.mp hc]
      rfl
    · cases hc
  · split at hc
    · rw [List.mem_singleton.mp hc]
      rfl
    · cases hc
  · exact isBlank_indent flags level c hc

/-- An escaped byte is read as that byte. -/
lemma readString_escape (flags : ToStringFlags) (c : UInt8) (rest : List UInt8) :
    readString (jsonEscapeCharExt flags c ++ rest) = (readString rest).map (fun p => (c :: p.1, p.2)) := by
  have hkinds := forall_byte (P := fun c => (jsonEscapeChar c = [c] ∧ c ≠ 34 ∧ c ≠ 92 ∧ ¬c < 32) ∨
    (∃ e ∈ [34, 47, 92, 98, 102, 110, 114, 116], jsonEscapeChar c = [92, e] ∧ simpleEscape e = some c) ∨
    (jsonEscapeChar c = [92, 117, 48, 48, hexDigit (c.toNat / 16), hexDigit (c.toNat % 16)] ∧
      codeUnit 48 48 (hexDigit (c.toNat / 16)) (hexDigit (c.toNat % 16)) = some c.toNat ∧ c.toNat < 0x80))
    (by decide +kernel) c
  unfold jsonEscapeCharExt
  split
  · rename_i hslash
    rw [hslash.2]
    exact readString_plain rest (by decide) (by decide) (by decide)
  · rcases hkinds with ⟨hcode, hquote, hback, hlow⟩ | ⟨e, he, hcode, hread⟩ | ⟨hcode, hunit, hlow⟩
    · rw [hcode]
      exact readString_plain rest hquote hback hlow
    · rw [hcode]
      apply readString_simple rest ?_ hread
      rintro rfl
      exact absurd he (by decide)
    · have hread := readString_unicode rest hunit hlow
      rw [UInt8.ofNat_toNat] at hread
      rw [hcode]
      exact hread

def jsonStyle (flags : ToStringFlags) : Style where
  lead := leadSpace flags
  colon := if flags.spaced then [32] else []
  escape := jsonEscapeCharExt flags
  lead_blank := isBlank_leadSpace flags
  colon_blank := by
    intro c hc
    split at hc
    · rw [List.mem_singleton.mp hc]
      rfl
    · cases hc
  escape_reads := readString_escape flags

/-! ### The serialiser is a printer of this style -/

lemma number?_print {text : List UInt8} {v : Value} (h : number? text = some v) (style : Style) (level : ℕ) :
    text = print style level v := by
  unfold number? at h
  split at h
  · cases h
    rw [print]
  · cases h

lemma print_bool (style : Style) (level : ℕ) (b : Bool) :
    print style level (.bool b) = if b then ascii "true" else ascii "false" := by
  rw [print]
  rfl

lemma leadSpace_element (flags : ToStringFlags) (level : ℕ) : leadSpace flags (level + 1) = newLine flags ++ elementSpace flags level :=
  rfl

lemma closingSpace_children (flags : ToStringFlags) (level : ℕ) : closingSpace flags level true = leadSpace flags level := by
  unfold closingSpace leadSpace newLine indent
  cases flags.pretty <;> cases flags.spaced <;> simp

lemma closingSpace_empty (flags : ToStringFlags) (level : ℕ) :
    newLine flags ++ closingSpace flags level false = leadSpace flags level := by
  unfold closingSpace leadSpace newLine indent
  cases flags.pretty <;> cases flags.spaced <;> simp

lemma colon_eq (flags : ToStringFlags) :
    (if flags.spaced then ascii "\": " else ascii "\":") = 34 :: 58 :: (jsonStyle flags).colon := by
  change _ = 34 :: 58 :: (if flags.spaced then [32] else [])
  cases flags.spaced <;> rfl

mutual

theorem toJsonStringExt_eq (flags : ToStringFlags) (level : ℕ) : ∀ (j : Json) (v : Value), j.value? = some v →
    j.toJsonStringExt flags level = print (jsonStyle flags) level v
  | .null, v, h => by
    cases h
    rw [print, Json.toJsonStringExt]
    rfl
  | .bool b, v, h => by
    cases h
    rw [print_bool, Json.toJsonStringExt]
  | .int i, v, h => by
    rw [Json.toJsonStringExt]
    exact number?_print h _ _
  | .double text trunc isZero, v, h => by
    rw [Json.toJsonStringExt]
    exact number?_print h _ _
  | .string s, v, h => by
    cases h
    rw [print, Json.toJsonStringExt]
    rfl
  | .array [], v, h => by
    cases h
    rw [print, Json.toJsonStringExt, printElems, elemsToJsonStringExt, List.append_nil, List.append_assoc (ascii "["),
      List.isEmpty_nil, Bool.not_true, closingSpace_empty]
    rfl
  | .array (j :: elems), v, h => by
    obtain ⟨vs, hvs, rfl⟩ := Option.map_eq_some_iff.mp h
    obtain ⟨w, hw, hrest⟩ := Option.bind_eq_some_iff.mp hvs
    obtain ⟨ws, hws, rfl⟩ := Option.map_eq_some_iff.mp hrest
    rw [print, Json.toJsonStringExt, printElems, elemsToJsonStringExt, toJsonStringExt_eq flags (level + 1) j w hw,
      elemsToJsonStringExt_eq flags level elems ws hws, List.isEmpty_cons, Bool.not_false, closingSpace_children]
    simp only [Bool.false_eq_true, if_false, if_true, List.nil_append, List.append_assoc]
    rw [show (jsonStyle flags).lead (level + 1) = newLine flags ++ elementSpace flags level from leadSpace_element flags level]
    simp only [List.append_assoc]
    rfl
  | .object [], v, h => by
    cases h
    rw [print, Json.toJsonStringExt, printFields, fieldsToJsonStringExt, List.append_nil, List.append_assoc (ascii "\x7b"),
      List.isEmpty_nil, Bool.not_true, closingSpace_empty]
    rfl
  | .object ((key, j) :: fields), v, h => by
    obtain ⟨vs, hvs, rfl⟩ := Option.map_eq_some_iff.mp h
    obtain ⟨w, hw, hrest⟩ := Option.bind_eq_some_iff.mp hvs
    obtain ⟨ws, hws, rfl⟩ := Option.map_eq_some_iff.mp hrest
    rw [print, Json.toJsonStringExt, printFields, fieldsToJsonStringExt, toJsonStringExt_eq flags (level + 1) j w hw,
      fieldsToJsonStringExt_eq flags level fields ws hws, List.isEmpty_cons, Bool.not_false, closingSpace_children, colon_eq]
    simp only [Bool.false_eq_true, if_false, if_true, List.nil_append, List.append_assoc]
    rw [show (jsonStyle flags).lead (level + 1) = newLine flags ++ elementSpace flags level from leadSpace_element flags level]
    simp only [List.append_assoc, List.cons_append]
    rfl

theorem elemsToJsonStringExt_eq (flags : ToStringFlags) (level : ℕ) : ∀ (elems : List Json) (vs : List Value),
    elemsValue? elems = some vs → elemsToJsonStringExt flags level true elems = printElems (jsonStyle flags) level false vs
  | [], vs, h => by
    cases h
    rw [printElems, elemsToJsonStringExt]
  | j :: elems, vs, h => by
    obtain ⟨w, hw, hrest⟩ := Option.bind_eq_some_iff.mp h
    obtain ⟨ws, hws, rfl⟩ := Option.map_eq_some_iff.mp hrest
    rw [printElems, elemsToJsonStringExt, toJsonStringExt_eq flags (level + 1) j w hw,
      elemsToJsonStringExt_eq flags level elems ws hws]
    simp only [Bool.false_eq_true, if_false, if_true, List.append_assoc]
    rw [show (jsonStyle flags).lead (level + 1) = newLine flags ++ elementSpace flags level from leadSpace_element flags level]
    simp only [List.append_assoc]
    rfl

theorem fieldsToJsonStringExt_eq (flags : ToStringFlags) (level : ℕ) :
    ∀ (fields : List (List UInt8 × Json)) (vs : List (List UInt8 × Value)), fieldsValue? fields = some vs →
      fieldsToJsonStringExt flags level true fields = printFields (jsonStyle flags) level false vs
  | [], vs, h => by
    cases h
    rw [printFields, fieldsToJsonStringExt]
  | (key, j) :: fields, vs, h => by
    obtain ⟨w, hw, hrest⟩ := Option.bind_eq_some_iff.mp h
    obtain ⟨ws, hws, rfl⟩ := Option.map_eq_some_iff.mp hrest
    rw [printFields, fieldsToJsonStringExt, toJsonStringExt_eq flags (level + 1) j w hw,
      fieldsToJsonStringExt_eq flags level fields ws hws, colon_eq]
    simp only [Bool.false_eq_true, if_false, if_true, List.append_assoc]
    rw [show (jsonStyle flags).lead (level + 1) = newLine flags ++ elementSpace flags level from leadSpace_element flags level]
    simp only [List.append_assoc, List.cons_append]
    rfl

end

/-- The text is a C string as it is. -/
lemma zero_not_mem_toJsonStringExt (flags : ToStringFlags) (level : ℕ) {j : Json} {v : Value} (hv : j.value? = some v) :
    0 ∉ j.toJsonStringExt flags level := by
  rw [toJsonStringExt_eq flags level j v hv]
  apply zero_not_mem_print
  intro c
  have hescape := forall_byte (P := fun c => 0 ∉ jsonEscapeChar c) (by decide +kernel) c
  change 0 ∉ jsonEscapeCharExt flags c
  unfold jsonEscapeCharExt
  split
  · rename_i hslash
    rw [hslash.2]
    decide
  · exact hescape

/-! ### Which values have a JSON value -/

lemma toDigits_digit {n : ℕ} {d : Char} (hd : d ∈ Nat.toDigits 10 n) : JsonText.isDigit (UInt8.ofNat d.toNat) = true := by
  have hdigit := Nat.isDigit_of_mem_toDigits (by decide) (by decide) hd
  simp only [Char.isDigit, Bool.and_eq_true, decide_eq_true_eq, ge_iff_le, UInt32.le_iff_toNat_le] at hdigit
  have hlow : 48 ≤ d.toNat := hdigit.1
  have hhigh : d.toNat ≤ 57 := hdigit.2
  simp only [JsonText.isDigit, Bool.and_eq_true, decide_eq_true_eq, UInt8.le_iff_toNat_le, UInt8.toNat_ofNat']
  rw [Nat.mod_eq_of_lt (by omega)]
  exact ⟨hlow, hhigh⟩

/-- A number other than zero does not start with a zero. -/
lemma toDigits_head {n : ℕ} (hn : n ≠ 0) : ∃ d ds, Nat.toDigits 10 n = d :: ds ∧ UInt8.ofNat d.toNat ≠ 48 := by
  induction n using Nat.strong_induction_on with
  | _ n ih =>
    by_cases hlt : n < 10
    · refine ⟨n.digitChar, [], Nat.toDigits_of_lt_base hlt, ?_⟩
      have hdigit : ∀ k < 10, k ≠ 0 → UInt8.ofNat (Nat.digitChar k).toNat ≠ 48 := by decide
      exact hdigit n hlt hn
    · obtain ⟨d, ds, hdigits, hne⟩ := ih (n / 10) (by omega) (by omega)
      rw [Nat.toDigits_of_base_le (by decide) (by omega), hdigits]
      exact ⟨d, ds ++ [(n % 10).digitChar], rfl, hne⟩

lemma isUnsigned_nat (n : ℕ) : isUnsigned (ascii (toString n)) = true := by
  have htext : ascii (toString n) = (Nat.toDigits 10 n).map (fun d => UInt8.ofNat d.toNat) := by
    rw [ascii, Nat.toString_eq_repr, Nat.toList_repr]
  have hall : ∀ c ∈ ascii (toString n), JsonText.isDigit c = true := by
    intro c hc
    rw [htext] at hc
    obtain ⟨d, hd, rfl⟩ := List.mem_map.mp hc
    exact toDigits_digit hd
  have htake : (ascii (toString n)).takeWhile JsonText.isDigit = ascii (toString n) := by
    rw [List.takeWhile_eq_self_iff]
    exact hall
  have hdrop : (ascii (toString n)).dropWhile JsonText.isDigit = [] := by
    rw [List.dropWhile_eq_nil_iff]
    exact hall
  rw [isUnsigned, htake, hdrop]
  by_cases hn : n = 0
  · subst hn
    decide
  · obtain ⟨d, ds, hdigits, hne⟩ := toDigits_head hn
    rw [htext, hdigits, List.map_cons]
    simp only [List.isEmpty_cons, Bool.not_false, List.head?_cons, isFraction, Bool.true_and, Bool.and_true, Bool.or_eq_true,
      bne_iff_ne, ne_eq, Option.some_inj]
    exact Or.inl hne

lemma isNumber_int (i : ℤ) : isNumber (ascii (toString i)) = true := by
  rw [ascii_int]
  split
  · rw [isNumber, if_neg, isUnsigned_nat]
    intro hsign
    have hunsigned := isUnsigned_nat i.toNat
    cases htext : ascii (toString i.toNat) with
    | nil =>
      rw [htext] at hsign
      cases hsign
    | cons c rest =>
      rw [htext, List.head?_cons, Option.some_inj] at hsign
      rw [htext, hsign] at hunsigned
      cases hunsigned
  · rw [isNumber, List.head?_cons, if_pos rfl, List.tail_cons]
    exact isUnsigned_nat _

lemma number?_isSome (text : List UInt8) : (number? text).isSome = isNumber text := by
  unfold number?
  split
  · rename_i h
    rw [h]
    rfl
  · rename_i h
    rw [Bool.not_eq_true] at h
    rw [h]
    rfl

mutual

theorem value?_isSome : ∀ j : Json, j.value?.isSome = j.doublesOk
  | .null => rfl
  | .bool _ => rfl
  | .int i => by rw [Json.value?, number?_isSome, isNumber_int, Json.doublesOk]
  | .double text _ _ => by rw [Json.value?, number?_isSome, Json.doublesOk]
  | .string _ => rfl
  | .array elems => by rw [Json.value?, Option.isSome_map, Json.doublesOk, elemsValue?_isSome elems]
  | .object fields => by rw [Json.value?, Option.isSome_map, Json.doublesOk, fieldsValue?_isSome fields]

theorem elemsValue?_isSome : ∀ elems : List Json, (elemsValue? elems).isSome = elemsDoublesOk elems
  | [] => rfl
  | j :: elems => by
    rw [elemsValue?, elemsDoublesOk, ← value?_isSome j, ← elemsValue?_isSome elems]
    cases j.value? with
    | none => rfl
    | some v =>
      rw [Option.bind_some, Option.isSome_map]
      rfl

theorem fieldsValue?_isSome : ∀ fields : List (List UInt8 × Json), (fieldsValue? fields).isSome = fieldsDoublesOk fields
  | [] => rfl
  | (key, j) :: fields => by
    rw [fieldsValue?, fieldsDoublesOk, ← value?_isSome j, ← fieldsValue?_isSome fields]
    cases j.value? with
    | none => rfl
    | some v =>
      rw [Option.bind_some, Option.isSome_map]
      rfl

end

/-! ### The default format -/

def spacedFlags : ToStringFlags := ⟨true, false, false, false⟩

lemma closingSpace_spaced (level : ℕ) (hadChildren : Bool) : closingSpace spacedFlags level hadChildren = [32] := rfl

mutual

/-- `json_object_to_json_string` is the spaced format. -/
theorem toJsonString_spaced (level : ℕ) : ∀ j : Json, j.toJsonStringExt spacedFlags level = j.toJsonString
  | .null => rfl
  | .bool _ => rfl
  | .int _ => rfl
  | .double _ _ _ => rfl
  | .string _ => rfl
  | .array elems => by
    rw [Json.toJsonStringExt, Json.toJsonString, closingSpace_spaced, ← Bool.not_false, ← elemsToJsonString_spaced level false elems,
      show newLine spacedFlags = [] from rfl, List.append_nil, List.append_assoc, List.append_assoc]
    simp only [List.append_assoc]
    rfl
  | .object fields => by
    rw [Json.toJsonStringExt, Json.toJsonString, closingSpace_spaced, ← Bool.not_false, ← fieldsToJsonString_spaced level false fields,
      show newLine spacedFlags = [] from rfl, List.append_nil, List.append_assoc, List.append_assoc]
    simp only [List.append_assoc]
    rfl

theorem elemsToJsonString_spaced (level : ℕ) (hadChildren : Bool) : ∀ elems : List Json,
    elemsToJsonStringExt spacedFlags level hadChildren elems = elemsToJsonString (!hadChildren) elems
  | [] => rfl
  | j :: elems => by
    rw [elemsToJsonStringExt, elemsToJsonString, toJsonString_spaced (level + 1) j, elemsToJsonString_spaced level true elems]
    cases hadChildren <;> rfl

theorem fieldsToJsonString_spaced (level : ℕ) (hadChildren : Bool) : ∀ fields : List (List UInt8 × Json),
    fieldsToJsonStringExt spacedFlags level hadChildren fields = fieldsToJsonString (!hadChildren) fields
  | [] => rfl
  | (key, j) :: fields => by
    rw [fieldsToJsonStringExt, fieldsToJsonString, toJsonString_spaced (level + 1) j,
      fieldsToJsonString_spaced level true fields]
    cases hadChildren <;> rfl

end

/-- In every format a value is read back as it is, where its doubles have the texts of JSON numbers; the text that
`json_object_get_string` makes of an array or object is one of them. -/
theorem serialised_json_reads_back (j : Json) (hdoubles : j.doublesOk = true) :
    ∃ v, j.value? = some v ∧ parse j.toJsonString = some v ∧
      ∀ flags level, parse (j.toJsonStringExt flags level) = some v := by
  rw [← value?_isSome, Option.isSome_iff_exists] at hdoubles
  obtain ⟨v, hv⟩ := hdoubles
  have hall : ∀ flags level, parse (j.toJsonStringExt flags level) = some v := by
    intro flags level
    rw [toJsonStringExt_eq flags level j v hv]
    exact parse_print (jsonStyle flags) level v
  refine ⟨v, hv, ?_, hall⟩
  rw [← toJsonString_spaced 0]
  exact hall spacedFlags 0

/-- A message whose text has a quote, a line break and a slash in it. -/
def quotedJson : Json :=
  .object [(ascii "text", .string (ascii "a\"/\n")), (ascii "ids", .array [.int (-7), .double (ascii "1.50") 1 false, .null]),
    (ascii "none", .array [])]

theorem serialised_json_reads_back_quoted :
    quotedJson.toJsonStringExt ⟨false, true, false, true⟩ 0 =
        ascii "\x7b\n  \"text\":\"a\\\"/\\n\",\n  \"ids\":[\n    -7,\n    1.50,\n    null\n  ],\n  \"none\":[\n  ]\n\x7d" ∧
      ∃ v, quotedJson.value? = some v ∧ parse (quotedJson.toJsonStringExt ⟨false, true, false, true⟩ 0) = some v := by
  obtain ⟨v, hv, -, hall⟩ := serialised_json_reads_back quotedJson (by decide +kernel)
  exact ⟨by decide +kernel, v, hv, hall _ 0⟩

end GNUWeebBot.Proofs
