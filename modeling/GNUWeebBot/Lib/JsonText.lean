import GNUWeebBot.Lib.FormUrl
import GNUWeebBot.Lib.Words

/-!
# JSON texts

A reader of JSON texts, and printers: they differ in the white space and in which characters they
escape, and the reader gets the value back from what any of them prints.
-/

namespace JsonText

open FormUrl Words

/-! ### Numbers -/

def isDigit (c : UInt8) : Bool := 48 ≤ c && c ≤ 57

def isExponent : List UInt8 → Bool
  | [] => true
  | c :: rest =>
    let digits := if rest.head? = some 43 ∨ rest.head? = some 45 then rest.tail else rest
    (c == 101 || c == 69) && !digits.isEmpty && digits.all isDigit

def isFraction : List UInt8 → Bool
  | [] => true
  | c :: rest =>
    if c = 46 then !(rest.takeWhile isDigit).isEmpty && isExponent (rest.dropWhile isDigit)
    else isExponent (c :: rest)

def isUnsigned (text : List UInt8) : Bool :=
  let digits := text.takeWhile isDigit
  !digits.isEmpty && (digits.head? != some 48 || digits.length == 1) && isFraction (text.dropWhile isDigit)

def isNumber (text : List UInt8) : Bool := isUnsigned (if text.head? = some 45 then text.tail else text)

def isNumberChar (c : UInt8) : Bool := isDigit c || c == 43 || c == 45 || c == 46 || c == 69 || c == 101

/-- Two numbers are the same value if they have the same text. -/
abbrev Number : Type := { text : List UInt8 // isNumber text = true }

inductive Value
  | null
  | bool (b : Bool)
  | number (n : Number)
  | string (s : List UInt8)
  | array (elems : List Value)
  | object (fields : List (List UInt8 × Value))

/-! ### Reading -/

def isBlank (c : UInt8) : Bool := c == 32 || c == 9 || c == 10 || c == 13

def skipBlanks (text : List UInt8) : List UInt8 := text.dropWhile isBlank

/-- The rest of a text after a fixed one. -/
def expect (lit text : List UInt8) : Option (List UInt8) :=
  if lit.isPrefixOf text then some (text.drop lit.length) else none

def readNumber (text : List UInt8) : Option (Value × List UInt8) :=
  if h : isNumber (text.takeWhile isNumberChar) = true then
    some (.number ⟨text.takeWhile isNumberChar, h⟩, text.dropWhile isNumberChar)
  else none

def simpleEscape (c : UInt8) : Option UInt8 :=
  if c = 34 ∨ c = 47 ∨ c = 92 then some c
  else if c = 98 then some 8
  else if c = 102 then some 12
  else if c = 110 then some 10
  else if c = 114 then some 13
  else if c = 116 then some 9
  else none

def codeUnit (a b c d : UInt8) : Option ℕ := do
  let a ← hexValue a
  let b ← hexValue b
  let c ← hexValue c
  let d ← hexValue d
  pure (4096 * a.toNat + 256 * b.toNat + 16 * c.toNat + d.toNat)

def utf8 (n : ℕ) : List UInt8 :=
  if n < 0x80 then [UInt8.ofNat n]
  else if n < 0x800 then [UInt8.ofNat (0xc0 + n / 64), UInt8.ofNat (0x80 + n % 64)]
  else if n < 0x10000 then
    [UInt8.ofNat (0xe0 + n / 4096), UInt8.ofNat (0x80 + n / 64 % 64), UInt8.ofNat (0x80 + n % 64)]
  else
    [UInt8.ofNat (0xf0 + n / 262144), UInt8.ofNat (0x80 + n / 4096 % 64), UInt8.ofNat (0x80 + n / 64 % 64),
      UInt8.ofNat (0x80 + n % 64)]

/-- The rest of a string after its opening quote, and the text behind the closing one. A character outside
the basic plane is two escapes. -/
def readString : List UInt8 → Option (List UInt8 × List UInt8)
  | [] => none
  | 34 :: rest => some ([], rest)
  | 92 :: 117 :: a :: b :: c :: d :: rest =>
    match codeUnit a b c d with
    | none => none
    | some high =>
      if 0xd800 ≤ high ∧ high < 0xdc00 then
        match rest with
        | 92 :: 117 :: e :: f :: g :: h :: rest =>
          match codeUnit e f g h with
          | none => none
          | some low =>
            if 0xdc00 ≤ low ∧ low < 0xe000 then
              (readString rest).map (fun p => (utf8 (0x10000 + (high - 0xd800) * 1024 + (low - 0xdc00)) ++ p.1, p.2))
            else none
        | _ => none
      else if 0xdc00 ≤ high ∧ high < 0xe000 then none
      else (readString rest).map (fun p => (utf8 high ++ p.1, p.2))
  | 92 :: c :: rest =>
    match simpleEscape c with
    | none => none
    | some b => (readString rest).map (fun p => (b :: p.1, p.2))
  | c :: rest => if c < 32 ∨ c = 92 then none else (readString rest).map (fun p => (c :: p.1, p.2))

/-- What a name is followed by. -/
def readColon (text : List UInt8) : Option (List UInt8) := expect [58] (skipBlanks text)

/-- The name of a field, with the colon. -/
def readName (text : List UInt8) : Option (List UInt8 × List UInt8) := do
  let text ← expect [34] (skipBlanks text)
  let (name, text) ← readString text
  let text ← readColon text
  pure (name, text)

mutual

def readValue : ℕ → List UInt8 → Option (Value × List UInt8)
  | 0, _ => none
  | n + 1, text =>
    match skipBlanks text with
    | [] => none
    | c :: rest =>
      if c = 34 then (readString rest).map (fun p => (.string p.1, p.2))
      else if c = 91 then
        if (skipBlanks rest).head? = some 93 then some (.array [], (skipBlanks rest).tail)
        else (readElems n rest).map (fun p => (.array p.1, p.2))
      else if c = 123 then
        if (skipBlanks rest).head? = some 125 then some (.object [], (skipBlanks rest).tail)
        else (readFields n rest).map (fun p => (.object p.1, p.2))
      else if c = 110 then (expect [117, 108, 108] rest).map (fun rest => (.null, rest))
      else if c = 116 then (expect [114, 117, 101] rest).map (fun rest => (.bool true, rest))
      else if c = 102 then (expect [97, 108, 115, 101] rest).map (fun rest => (.bool false, rest))
      else readNumber (c :: rest)

/-- One element and those after it. -/
def readElems : ℕ → List UInt8 → Option (List Value × List UInt8)
  | 0, _ => none
  | n + 1, text =>
    match readValue n text with
    | none => none
    | some (v, rest) =>
      match skipBlanks rest with
      | [] => none
      | c :: rest =>
        if c = 93 then some ([v], rest)
        else if c = 44 then (readElems n rest).map (fun p => (v :: p.1, p.2))
        else none

def readFields : ℕ → List UInt8 → Option (List (List UInt8 × Value) × List UInt8)
  | 0, _ => none
  | n + 1, text =>
    match readName text with
    | none => none
    | some (name, text) =>
      match readValue n text with
      | none => none
      | some (v, rest) =>
        match skipBlanks rest with
        | [] => none
        | c :: rest =>
          if c = 125 then some ([(name, v)], rest)
          else if c = 44 then (readFields n rest).map (fun p => ((name, v) :: p.1, p.2))
          else none

end

/-- The value of a whole text. -/
def parse (text : List UInt8) : Option Value :=
  match readValue (2 * text.length) text with
  | some (v, rest) => if (skipBlanks rest).isEmpty then some v else none
  | none => none

/-! ### Printing -/

/-- `lead` is the white space before an element or a field at a level, and before the end of the array or
object at the level above it. -/
structure Style where
  lead : ℕ → List UInt8
  colon : List UInt8
  escape : UInt8 → List UInt8
  lead_blank : ∀ n, ∀ c ∈ lead n, isBlank c = true
  colon_blank : ∀ c ∈ colon, isBlank c = true
  escape_reads : ∀ c rest, readString (escape c ++ rest) = (readString rest).map (fun p => (c :: p.1, p.2))

mutual

def print (style : Style) (level : ℕ) : Value → List UInt8
  | .null => [110, 117, 108, 108]
  | .bool b => if b then [116, 114, 117, 101] else [102, 97, 108, 115, 101]
  | .number n => n.val
  | .string s => 34 :: (s.flatMap style.escape ++ [34])
  | .array elems => 91 :: (printElems style level true elems ++ (style.lead level ++ [93]))
  | .object fields => 123 :: (printFields style level true fields ++ (style.lead level ++ [125]))

def printElems (style : Style) (level : ℕ) (first : Bool) : List Value → List UInt8
  | [] => []
  | v :: rest =>
    (if first then [] else [44]) ++ (style.lead (level + 1) ++ (print style (level + 1) v ++ printElems style level false rest))

def printFields (style : Style) (level : ℕ) (first : Bool) : List (List UInt8 × Value) → List UInt8
  | [] => []
  | (name, v) :: rest =>
    (if first then [] else [44]) ++ (style.lead (level + 1) ++ (34 :: (name.flatMap style.escape ++ (34 :: 58 :: (style.colon ++
      (print style (level + 1) v ++ printFields style level false rest))))))

end

/-! ### What is read is what was printed -/

lemma skipBlanks_append {blanks text : List UInt8} (hblanks : ∀ c ∈ blanks, isBlank c = true)
    (htext : ∀ c ∈ text.head?, isBlank c = false) : skipBlanks (blanks ++ text) = text :=
  dropWhile_append hblanks htext

lemma skipBlanks_cons (c : UInt8) (rest : List UInt8) (hc : isBlank c = false) : skipBlanks (c :: rest) = c :: rest := by
  rw [skipBlanks, List.dropWhile_cons_of_neg (by rw [hc]; exact Bool.false_ne_true)]

lemma not_numberChar_of_blank {c : UInt8} (h : isBlank c = true) : isNumberChar c = false := by
  simp only [isBlank, Bool.or_eq_true, beq_iff_eq] at h
  rcases h with ((rfl | rfl) | rfl) | rfl <;> rfl

/-- The text behind a value starts with white space or a separator. -/
lemma head_of_blanks {blanks rest : List UInt8} {d : UInt8} (hblanks : ∀ c ∈ blanks, isBlank c = true)
    (hd : isNumberChar d = false) : ∀ c ∈ (blanks ++ d :: rest).head?, isNumberChar c = false := by
  cases blanks with
  | nil =>
    intro c hc
    obtain rfl : d = c := Option.some_inj.mp hc
    exact hd
  | cons b blanks =>
    intro c hc
    obtain rfl : b = c := Option.some_inj.mp hc
    exact not_numberChar_of_blank (hblanks b List.mem_cons_self)

lemma expect_append (lit rest : List UInt8) : expect lit (lit ++ rest) = some rest := by
  rw [expect, if_pos (List.isPrefixOf_iff_prefix.mpr (List.prefix_append lit rest)), List.drop_left]

/-! Strings -/

lemma readString_plain {c : UInt8} (rest : List UInt8) (hquote : c ≠ 34) (hback : c ≠ 92) (hlow : ¬c < 32) :
    readString (c :: rest) = (readString rest).map (fun p => (c :: p.1, p.2)) := by
  rw [readString.eq_def]
  split
  · rename_i h
    cases h
  · rename_i h
    exact absurd (List.cons.inj h).1 hquote
  · rename_i h
    exact absurd (List.cons.inj h).1 hback
  · rename_i h
    exact absurd (List.cons.inj h).1 hback
  · rename_i h
    obtain ⟨rfl, rfl⟩ := List.cons.inj h
    rw [if_neg (by rintro (h | h); exacts [hlow h, hback h])]

lemma readString_simple {c b : UInt8} (rest : List UInt8) (hc : c ≠ 117) (hb : simpleEscape c = some b) :
    readString (92 :: c :: rest) = (readString rest).map (fun p => (b :: p.1, p.2)) := by
  rw [readString.eq_def]
  split
  · rename_i h
    cases h
  · rename_i h
    exact absurd (List.cons.inj h).1 (by decide)
  · rename_i h
    exact absurd (List.cons.inj (List.cons.inj h).2).1 hc
  · rename_i h
    obtain ⟨rfl, rfl⟩ := List.cons.inj (List.cons.inj h).2
    simp only [hb]
  · rename_i hshort h
    obtain ⟨rfl, rfl⟩ := List.cons.inj h
    exact absurd rfl (hshort c rest rfl)

lemma readString_unicode {a b c d : UInt8} {n : ℕ} (rest : List UInt8) (hn : codeUnit a b c d = some n) (hlow : n < 0x80) :
    readString (92 :: 117 :: a :: b :: c :: d :: rest) = (readString rest).map (fun p => (UInt8.ofNat n :: p.1, p.2)) := by
  rw [readString.eq_def]
  simp only [hn]
  rw [if_neg (by omega), if_neg (by omega), utf8, if_pos hlow]
  rfl

lemma readString_flatMap (style : Style) (s rest : List UInt8) :
    readString (s.flatMap style.escape ++ 34 :: rest) = some (s, rest) := by
  induction s with
  | nil =>
    rw [List.flatMap_nil, List.nil_append, readString]
  | cons c s ih =>
    rw [List.flatMap_cons, List.append_assoc, style.escape_reads, ih]
    rfl

/-! Numbers -/

lemma isNumberChar_digit {c : UInt8} (h : isDigit c = true) : isNumberChar c = true := by
  rw [isNumberChar, h]
  rfl

lemma all_of_parts {p : UInt8 → Bool} {text : List UInt8} (hdigits : ∀ c, isDigit c = true → p c = true)
    (h : ∀ c ∈ text.dropWhile isDigit, p c = true) : ∀ c ∈ text, p c = true := by
  intro c hc
  rw [← List.takeWhile_append_dropWhile (p := isDigit) (l := text)] at hc
  rcases List.mem_append.mp hc with hc | hc
  · exact hdigits c (List.mem_takeWhile_imp hc)
  · exact h c hc

lemma isExponent_chars {text : List UInt8} (h : isExponent text = true) : ∀ c ∈ text, isNumberChar c = true := by
  cases text with
  | nil => exact fun c hc => absurd hc List.not_mem_nil
  | cons e rest =>
    simp only [isExponent, Bool.and_eq_true, Bool.or_eq_true, beq_iff_eq, List.all_eq_true] at h
    obtain ⟨⟨he, -⟩, hdigits⟩ := h
    rw [List.forall_mem_cons]
    constructor
    · rcases he with rfl | rfl <;> rfl
    · split at hdigits
      · rename_i hsign
        cases rest with
        | nil => exact fun c hc => absurd hc List.not_mem_nil
        | cons sign rest =>
          simp only [List.head?_cons, Option.some_inj] at hsign
          rw [List.forall_mem_cons]
          refine ⟨?_, fun c hc => isNumberChar_digit (hdigits c hc)⟩
          rcases hsign with rfl | rfl <;> rfl
      · exact fun c hc => isNumberChar_digit (hdigits c hc)

lemma isFraction_chars {text : List UInt8} (h : isFraction text = true) : ∀ c ∈ text, isNumberChar c = true := by
  cases text with
  | nil => exact fun c hc => absurd hc List.not_mem_nil
  | cons e rest =>
    rw [isFraction] at h
    split at h
    · rename_i he
      rw [Bool.and_eq_true] at h
      rw [List.forall_mem_cons]
      constructor
      · rw [he]
        rfl
      · exact all_of_parts (fun c => isNumberChar_digit) (isExponent_chars h.2)
    · exact isExponent_chars h

lemma isNumber_chars {text : List UInt8} (h : isNumber text = true) : ∀ c ∈ text, isNumberChar c = true := by
  have hunsigned : ∀ {text : List UInt8}, isUnsigned text = true → ∀ c ∈ text, isNumberChar c = true := by
    intro text h
    simp only [isUnsigned, Bool.and_eq_true] at h
    exact all_of_parts (fun c => isNumberChar_digit) (isFraction_chars h.2)
  rw [isNumber] at h
  split at h
  · rename_i hsign
    cases text with
    | nil => exact fun c hc => absurd hc List.not_mem_nil
    | cons sign rest =>
      rw [List.head?_cons, Option.some_inj] at hsign
      rw [List.forall_mem_cons]
      refine ⟨?_, hunsigned h⟩
      rw [hsign]
      rfl
  · exact hunsigned h

/-- A number starts with a digit or a minus. -/
lemma isNumber_head {text : List UInt8} (h : isNumber text = true) :
    ∃ c rest, text = c :: rest ∧ (isDigit c = true ∨ c = 45) := by
  cases text with
  | nil => cases h
  | cons c rest =>
    refine ⟨c, rest, rfl, ?_⟩
    by_cases hsign : c = 45
    · exact Or.inr hsign
    · left
      by_contra hdigit
      rw [isNumber, List.head?_cons, if_neg (by rw [Option.some_inj]; exact hsign)] at h
      rw [isUnsigned, List.takeWhile_cons_of_neg hdigit] at h
      cases h

lemma readNumber_append (n : Number) {rest : List UInt8} (hrest : ∀ c ∈ rest.head?, isNumberChar c = false) :
    readNumber (n.val ++ rest) = some (.number n, rest) := by
  have htake := takeWhile_append (isNumber_chars n.property) hrest
  have hdrop := dropWhile_append (isNumber_chars n.property) hrest
  unfold readNumber
  split
  · simp only [htake, hdrop]
  · rename_i hnot
    rw [htake] at hnot
    exact absurd n.property hnot

/-! Values -/

section Print

variable (style : Style)

/-- A value starts with neither white space nor the end of an array. -/
lemma print_head (level : ℕ) (v : Value) :
    ∃ c rest, print style level v = c :: rest ∧ isBlank c = false ∧ c ≠ 93 := by
  cases v with
  | null => exact ⟨_, _, rfl, rfl, by decide⟩
  | bool b => cases b <;> exact ⟨_, _, rfl, rfl, by decide⟩
  | string s => exact ⟨_, _, rfl, rfl, by decide⟩
  | array elems => exact ⟨_, _, rfl, rfl, by decide⟩
  | object fields => exact ⟨_, _, rfl, rfl, by decide⟩
  | number n =>
    obtain ⟨c, rest, htext, hc⟩ := isNumber_head n.property
    refine ⟨c, rest, htext, ?_⟩
    rcases hc with hdigit | rfl
    · simp only [isDigit, Bool.and_eq_true, decide_eq_true_eq] at hdigit
      constructor
      · by_contra hblank
        simp only [isBlank, Bool.not_eq_false, Bool.or_eq_true, beq_iff_eq] at hblank
        rcases hblank with ((rfl | rfl) | rfl) | rfl <;> exact absurd hdigit (by decide)
      · rintro rfl
        exact absurd hdigit (by decide)
    · exact ⟨rfl, by decide⟩

lemma skipBlanks_print {blanks : List UInt8} (hblanks : ∀ c ∈ blanks, isBlank c = true) (level : ℕ) (v : Value)
    (rest : List UInt8) : skipBlanks (blanks ++ (print style level v ++ rest)) = print style level v ++ rest := by
  obtain ⟨c, text, hprint, hc, -⟩ := print_head style level v
  apply skipBlanks_append hblanks
  intro d hd
  rw [hprint, List.cons_append, List.head?_cons] at hd
  exact Option.some_inj.mp hd ▸ hc

lemma readValue_number {n : ℕ} (m : Number) {text rest : List UInt8} (hskip : skipBlanks text = m.val ++ rest)
    (hrest : ∀ c ∈ rest.head?, isNumberChar c = false) : readValue (n + 1) text = some (.number m, rest) := by
  obtain ⟨c, tail, htext, hc⟩ := isNumber_head m.property
  have hread := readNumber_append m hrest
  have hother : ∀ d : UInt8, isDigit d = false → d ≠ 45 → c ≠ d := by
    rintro d hd hminus rfl
    rcases hc with hdigit | hminus'
    · rw [hd] at hdigit
      cases hdigit
    · exact hminus hminus'
  rw [readValue, hskip]
  rw [htext, List.cons_append] at hread ⊢
  simp only [if_neg (hother 34 rfl (by decide)), if_neg (hother 91 rfl (by decide)), if_neg (hother 123 rfl (by decide)),
    if_neg (hother 110 rfl (by decide)), if_neg (hother 116 rfl (by decide)), if_neg (hother 102 rfl (by decide))]
  exact hread

lemma readName_print (level : ℕ) (name rest : List UInt8) :
    readName (style.lead level ++ (34 :: (name.flatMap style.escape ++ (34 :: 58 :: rest)))) = some (name, rest) := by
  have hskip : skipBlanks (style.lead level ++ (34 :: (name.flatMap style.escape ++ (34 :: 58 :: rest)))) =
      34 :: (name.flatMap style.escape ++ (34 :: 58 :: rest)) :=
    skipBlanks_append (style.lead_blank level) (fun c hc => Option.some_inj.mp hc ▸ rfl)
  have hquote := expect_append [34] (name.flatMap style.escape ++ (34 :: 58 :: rest))
  have hcolon : readColon (58 :: rest) = some rest := by
    rw [readColon, skipBlanks_cons 58 rest rfl]
    exact expect_append [58] rest
  rw [List.singleton_append] at hquote
  rw [readName, hskip, hquote]
  simp only [Option.bind_eq_bind, Option.bind_some, readString_flatMap, hcolon]
  rfl

/-! With fuel `n` every value, every list of elements and every list of fields that is short enough is read. -/

def ReadsValues (n : ℕ) : Prop :=
  ∀ level v (blanks rest : List UInt8), (∀ c ∈ blanks, isBlank c = true) → (∀ c ∈ rest.head?, isNumberChar c = false) →
    2 * (print style level v).length ≤ n → readValue n (blanks ++ (print style level v ++ rest)) = some (v, rest)

def ReadsElems (n : ℕ) : Prop :=
  ∀ level elems rest, elems ≠ [] → 2 * (printElems style level true elems).length + 1 ≤ n →
    readElems n (printElems style level true elems ++ (style.lead level ++ 93 :: rest)) = some (elems, rest)

def ReadsFields (n : ℕ) : Prop :=
  ∀ level fields rest, fields ≠ [] → 2 * (printFields style level true fields).length + 1 ≤ n →
    readFields n (printFields style level true fields ++ (style.lead level ++ 125 :: rest)) = some (fields, rest)

/-- The white space in front of the end of an array or object. -/
lemma skipBlanks_close (level : ℕ) (d : UInt8) (rest : List UInt8) (hd : isBlank d = false) :
    skipBlanks (style.lead level ++ d :: rest) = d :: rest :=
  skipBlanks_append (style.lead_blank level) (fun _ hc => Option.some_inj.mp hc ▸ hd)

variable {style} {n : ℕ}

lemma readsValues_array (helems : ReadsElems style n) {level : ℕ} {elems : List Value} {text rest : List UInt8}
    (hskip : skipBlanks text = print style level (.array elems) ++ rest)
    (hn : 2 * (print style level (.array elems)).length ≤ n + 1) : readValue (n + 1) text = some (.array elems, rest) := by
  have htext : print style level (.array elems) ++ rest =
      91 :: (printElems style level true elems ++ (style.lead level ++ 93 :: rest)) := by
    simp only [print, List.nil_append, List.cons_append, List.append_assoc]
  rw [print, List.length_cons, List.length_append, List.length_append, List.length_singleton] at hn
  rw [readValue, hskip, htext]
  cases elems with
  | nil =>
    simp only [printElems, List.nil_append, skipBlanks_close style level 93 rest rfl, List.head?_cons, List.tail_cons, if_true]
    rfl
  | cons w ws =>
    have hopen : (skipBlanks (printElems style level true (w :: ws) ++ (style.lead level ++ 93 :: rest))).head? ≠ some 93 := by
      obtain ⟨d, tail, hd, -, hne⟩ := print_head style (level + 1) w
      rw [printElems, if_pos rfl, List.nil_append, List.append_assoc, List.append_assoc,
        skipBlanks_print style (style.lead_blank (level + 1)), hd, List.cons_append, List.head?_cons, ne_eq, Option.some_inj]
      exact hne
    have hread := helems level (w :: ws) rest (List.cons_ne_nil w ws) (by omega)
    simp only [if_neg hopen, hread, Option.map_some]
    rfl

lemma readsValues_object (hfields : ReadsFields style n) {level : ℕ} {fields : List (List UInt8 × Value)}
    {text rest : List UInt8} (hskip : skipBlanks text = print style level (.object fields) ++ rest)
    (hn : 2 * (print style level (.object fields)).length ≤ n + 1) : readValue (n + 1) text = some (.object fields, rest) := by
  have htext : print style level (.object fields) ++ rest =
      123 :: (printFields style level true fields ++ (style.lead level ++ 125 :: rest)) := by
    simp only [print, List.nil_append, List.cons_append, List.append_assoc]
  rw [print, List.length_cons, List.length_append, List.length_append, List.length_singleton] at hn
  rw [readValue, hskip, htext]
  cases fields with
  | nil =>
    simp only [printFields, List.nil_append, skipBlanks_close style level 125 rest rfl, List.head?_cons, List.tail_cons, if_true]
    rfl
  | cons f fs =>
    have hopen : (skipBlanks (printFields style level true (f :: fs) ++ (style.lead level ++ 125 :: rest))).head? ≠ some 125 := by
      rw [printFields, if_pos rfl, List.nil_append, List.append_assoc, List.cons_append,
        skipBlanks_close style (level + 1) 34 _ rfl, List.head?_cons, ne_eq, Option.some_inj]
      decide
    have hread := hfields level (f :: fs) rest (List.cons_ne_nil f fs) (by omega)
    simp only [if_neg hopen, hread, Option.map_some]
    rfl

lemma readsValues_succ (helems : ReadsElems style n) (hfields : ReadsFields style n) : ReadsValues style (n + 1) := by
  intro level v blanks rest hblanks hrest hn
  have hskip := skipBlanks_print style hblanks level v rest
  cases v with
  | null =>
    rw [readValue, hskip]
    exact congrArg (Option.map _) (expect_append [117, 108, 108] rest)
  | bool b =>
    cases b with
    | true =>
      rw [readValue, hskip]
      exact congrArg (Option.map _) (expect_append [114, 117, 101] rest)
    | false =>
      rw [readValue, hskip]
      exact congrArg (Option.map _) (expect_append [97, 108, 115, 101] rest)
  | number m =>
    rw [print] at hskip ⊢
    exact readValue_number m hskip hrest
  | string s =>
    have hread := readString_flatMap style s rest
    rw [readValue, hskip, print, List.cons_append, List.append_assoc, List.singleton_append]
    simp only [if_true, hread, Option.map_some]
  | array elems => exact readsValues_array helems hskip hn
  | object fields => exact readsValues_object hfields hskip hn

lemma readsElems_succ (hvalues : ReadsValues style n) (helems : ReadsElems style n) : ReadsElems style (n + 1) := by
  intro level elems rest hne hn
  cases elems with
  | nil => exact absurd rfl hne
  | cons v ws =>
    have htext : printElems style level true (v :: ws) ++ (style.lead level ++ 93 :: rest) = style.lead (level + 1) ++
        (print style (level + 1) v ++ (printElems style level false ws ++ (style.lead level ++ 93 :: rest))) := by
      simp only [printElems, if_true, List.nil_append, List.append_assoc]
    simp only [printElems, if_true, List.nil_append, List.length_append] at hn
    rw [readElems, htext]
    cases ws with
    | nil =>
      rw [printElems, List.nil_append, hvalues (level + 1) v _ _ (style.lead_blank (level + 1))
        (head_of_blanks (style.lead_blank level) rfl) (by omega)]
      simp only [skipBlanks_close style level 93 rest rfl, if_true]
    | cons w ws =>
      have hcomma : printElems style level false (w :: ws) = 44 :: printElems style level true (w :: ws) := by
        rw [printElems, printElems]
        rfl
      rw [hcomma, List.length_cons] at hn
      have hread := hvalues (level + 1) v _ (44 :: (printElems style level true (w :: ws) ++ (style.lead level ++ 93 :: rest)))
        (style.lead_blank (level + 1)) (fun _ hc => Option.some_inj.mp hc ▸ rfl) (by omega)
      have hmore := helems level (w :: ws) rest (List.cons_ne_nil w ws) (by omega)
      rw [hcomma, List.cons_append, hread]
      simp only [skipBlanks_cons 44 _ rfl, hmore, Option.map_some]
      rfl

lemma readsFields_succ (hvalues : ReadsValues style n) (hfields : ReadsFields style n) : ReadsFields style (n + 1) := by
  intro level fields rest hne hn
  cases fields with
  | nil => exact absurd rfl hne
  | cons f fs =>
    obtain ⟨name, v⟩ := f
    have htext : printFields style level true ((name, v) :: fs) ++ (style.lead level ++ 125 :: rest) =
        style.lead (level + 1) ++ (34 :: (name.flatMap style.escape ++ (34 :: 58 :: (style.colon ++
          (print style (level + 1) v ++ (printFields style level false fs ++ (style.lead level ++ 125 :: rest))))))) := by
      simp only [printFields, if_true, List.nil_append, List.append_assoc, List.cons_append]
    simp only [printFields, if_true, List.nil_append, List.length_append, List.length_cons] at hn
    rw [readFields, htext, readName_print]
    cases fs with
    | nil =>
      have hread := hvalues (level + 1) v _ (style.lead level ++ 125 :: rest) style.colon_blank
        (head_of_blanks (style.lead_blank level) rfl) (by omega)
      simp only [printFields, List.nil_append, hread, skipBlanks_close style level 125 rest rfl, if_true]
    | cons f fs =>
      have hcomma : printFields style level false (f :: fs) = 44 :: printFields style level true (f :: fs) := by
        rw [printFields, printFields]
        rfl
      rw [hcomma, List.length_cons] at hn
      have hread := hvalues (level + 1) v _ (44 :: (printFields style level true (f :: fs) ++ (style.lead level ++ 125 :: rest)))
        style.colon_blank (fun _ hc => Option.some_inj.mp hc ▸ rfl) (by omega)
      have hmore := hfields level (f :: fs) rest (List.cons_ne_nil f fs) (by omega)
      simp only [hcomma, List.cons_append, hread, skipBlanks_cons 44 _ rfl, hmore, Option.map_some]
      rfl

variable (style)

/-- Two for each byte of the text are enough fuel. -/
theorem reads_all (n : ℕ) : ReadsValues style n ∧ ReadsElems style n ∧ ReadsFields style n := by
  induction n with
  | zero =>
    refine ⟨fun level v blanks rest _ _ hn => ?_, fun level elems rest _ hn => ?_, fun level fields rest _ hn => ?_⟩
    · obtain ⟨c, text, hprint, -⟩ := print_head style level v
      rw [hprint, List.length_cons] at hn
      omega
    · omega
    · omega
  | succ n ih =>
    obtain ⟨hvalues, helems, hfields⟩ := ih
    exact ⟨readsValues_succ helems hfields, readsElems_succ hvalues helems, readsFields_succ hvalues hfields⟩

/-- Every value is read from what is printed of it. -/
theorem parse_print (level : ℕ) (v : Value) : parse (print style level v) = some v := by
  have hread := (reads_all style (2 * (print style level v).length)).1 level v [] [] (fun c hc => absurd hc List.not_mem_nil)
    (fun c hc => by cases hc) (Nat.le_refl _)
  rw [List.nil_append, List.append_nil] at hread
  rw [parse, hread]
  rfl

/-! What is printed has no NUL in it. -/

lemma zero_not_mem_of_blank {blanks : List UInt8} (h : ∀ c ∈ blanks, isBlank c = true) : 0 ∉ blanks :=
  fun hmem => absurd (h 0 hmem) (by decide)

lemma zero_not_mem_flatMap (hescape : ∀ c, 0 ∉ style.escape c) (s : List UInt8) : 0 ∉ s.flatMap style.escape := by
  intro hmem
  obtain ⟨c, -, hc⟩ := List.mem_flatMap.mp hmem
  exact hescape c hc

variable {style}

mutual

theorem zero_not_mem_print (hescape : ∀ c, 0 ∉ style.escape c) (level : ℕ) : ∀ v : Value, 0 ∉ print style level v
  | .null => by simp [print]
  | .bool b => by cases b <;> simp [print]
  | .number n => by
    rw [print]
    exact fun hmem => absurd (isNumber_chars n.property 0 hmem) (by decide)
  | .string s => by
    have hzero := zero_not_mem_flatMap style hescape s
    simp [print, hzero]
  | .array elems => by
    have hlead := zero_not_mem_of_blank (style.lead_blank level)
    have hzero := zero_not_mem_printElems hescape level true elems
    simp [print, hlead, hzero]
  | .object fields => by
    have hlead := zero_not_mem_of_blank (style.lead_blank level)
    have hzero := zero_not_mem_printFields hescape level true fields
    simp [print, hlead, hzero]

theorem zero_not_mem_printElems (hescape : ∀ c, 0 ∉ style.escape c) (level : ℕ) (first : Bool) :
    ∀ elems : List Value, 0 ∉ printElems style level first elems
  | [] => List.not_mem_nil
  | v :: rest => by
    have hlead := zero_not_mem_of_blank (style.lead_blank (level + 1))
    have hvalue := zero_not_mem_print hescape (level + 1) v
    have hrest := zero_not_mem_printElems hescape level false rest
    cases first <;> simp [printElems, hlead, hvalue, hrest]

theorem zero_not_mem_printFields (hescape : ∀ c, 0 ∉ style.escape c) (level : ℕ) (first : Bool) :
    ∀ fields : List (List UInt8 × Value), 0 ∉ printFields style level first fields
  | [] => List.not_mem_nil
  | (name, v) :: rest => by
    have hlead := zero_not_mem_of_blank (style.lead_blank (level + 1))
    have hcolon := zero_not_mem_of_blank style.colon_blank
    have hname := zero_not_mem_flatMap style hescape name
    have hvalue := zero_not_mem_print hescape (level + 1) v
    have hrest := zero_not_mem_printFields hescape level false rest
    cases first <;> simp [printFields, hlead, hcolon, hname, hvalue, hrest]

end

end Print

end JsonText
