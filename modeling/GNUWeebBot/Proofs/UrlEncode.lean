import GNUWeebBot.Lib.FormUrl
import GNUWeebBot.Lib.Words
import GNUWeebBot.Model.FormBody

/-!
# Percent encoding

`urlencode` writes letters, digits and a few other bytes as they are, and each other byte as a `%` and
two digits, so its input can be read back from what it writes.
-/

namespace GNUWeebBot.Proofs

open FormUrl Words

/-- The byte itself, the `+` of a form, or a `%` and two digits. -/
lemma urlencodeChar_kinds (raw : Bool) (c : UInt8) :
    (urlencodeChar raw c = [c] ∧ (IsUnreserved c ∨ (raw = true ∧ c = 126))) ∨
      (urlencodeChar raw c = [43] ∧ raw = false ∧ c = 32) ∨
      ∃ high low, urlencodeChar raw c = [37, high, low] ∧ IsUpperHex high ∧ IsUpperHex low ∧
        hexValue high = some (c >>> 4) ∧ hexValue low = some (c &&& 15) ∧ (16 : UInt8) * (c >>> 4) + (c &&& 15) = c := by
  have hc := forall_byte (P := fun c => ∀ raw,
    (urlencodeChar raw c = [c] ∧ (IsUnreserved c ∨ (raw = true ∧ c = 126))) ∨
      (urlencodeChar raw c = [43] ∧ raw = false ∧ c = 32) ∨
      let high := hexchars.getD (c >>> 4).toNat 0
      let low := hexchars.getD (c &&& 15).toNat 0
      urlencodeChar raw c = [37, high, low] ∧ IsUpperHex high ∧ IsUpperHex low ∧
        hexValue high = some (c >>> 4) ∧ hexValue low = some (c &&& 15) ∧ (16 : UInt8) * (c >>> 4) + (c &&& 15) = c)
    (by decide +kernel) c raw
  exact hc.imp_right (fun h => h.imp_right (fun h => ⟨_, _, h⟩))

/-- A raw text has no `+`, so it does not matter what one would stand for. -/
lemma unescape_urlencodeChar {raw : Bool} {plus : UInt8} (hplus : raw = false → plus = 32) (c : UInt8) (rest : List UInt8) :
    unescape plus (urlencodeChar raw c ++ rest) = c :: unescape plus rest := by
  rcases urlencodeChar_kinds raw c with ⟨hcode, hplain⟩ | ⟨hcode, hform, rfl⟩ | ⟨high, low, hcode, -, -, hhigh, hlow, hbyte⟩
  · rw [hcode]
    apply unescape_plain
    · rintro rfl
      rcases hplain with hplain | ⟨-, hplain⟩ <;> exact absurd hplain (by decide)
    · rintro rfl
      rcases hplain with hplain | ⟨-, hplain⟩ <;> exact absurd hplain (by decide)
  · rw [hcode, hplus hform]
    exact unescape_plus 32 rest
  · rw [hcode, List.cons_append, List.cons_append, List.cons_append, List.nil_append, unescape_hex rest hhigh hlow, hbyte]

lemma urlText_urlencodeChar (raw : Bool) (c : UInt8) : UrlText raw (urlencodeChar raw c) := by
  rcases urlencodeChar_kinds raw c with ⟨hcode, hplain | ⟨hraw, rfl⟩⟩ | ⟨hcode, hform, -⟩ |
    ⟨high, low, hcode, hhigh, hlow, -⟩ <;> rw [hcode]
  · exact .plain hplain .nil
  · exact .tilde hraw .nil
  · exact .plus hform .nil
  · exact .hex hhigh hlow .nil

lemma urlencodeChar_length (raw : Bool) (c : UInt8) : (urlencodeChar raw c).length ≤ 3 := by
  unfold urlencodeChar
  split
  · simp
  · split <;> simp

/-- The text that `urlencode` writes. -/
def urlencoded (raw : Bool) (s : List UInt8) : List UInt8 := s.flatMap (urlencodeChar raw)

lemma urlencoded_length (raw : Bool) (s : List UInt8) : (urlencoded raw s).length ≤ 3 * s.length := by
  induction s with
  | nil => simp [urlencoded]
  | cons c s ih =>
    have hc := urlencodeChar_length raw c
    simp only [urlencoded, List.flatMap_cons, List.length_append, List.length_cons] at ih ⊢
    omega

lemma urlText_urlencoded (raw : Bool) (s : List UInt8) : UrlText raw (urlencoded raw s) :=
  UrlText.flatMap (fun c _ => urlText_urlencodeChar raw c)

lemma unescape_urlencoded {raw : Bool} {plus : UInt8} (hplus : raw = false → plus = 32) (s : List UInt8) :
    unescape plus (urlencoded raw s) = s := by
  have hdecode := unescape_flatMap (s := s) (fun c _ => unescape_urlencodeChar hplus c) []
  rw [List.append_nil, unescape, List.append_nil] at hdecode
  exact hdecode

lemma zero_not_mem_urlencoded (raw : Bool) (s : List UInt8) : 0 ∉ urlencoded raw s :=
  fun hmem => ((urlText_urlencoded raw s).clean 0 hmem).2.2 rfl

section Loop

variable {b : Buf} {text : List UInt8} {size : ℕ}

lemma holds_urlencodeLoop (raw : Bool) (s : List UInt8) (h : b.Holds text) :
    (urlencodeLoop raw s b text.length).1.Holds (text ++ urlencoded raw s) ∧
      (urlencodeLoop raw s b text.length).2 = (text ++ urlencoded raw s).length := by
  induction s generalizing b text with
  | nil => simpa [urlencodeLoop, urlencoded] using h
  | cons c s ih =>
    have hnext := ih (h.put (urlencodeChar raw c))
    rw [List.length_append] at hnext
    simpa [urlencodeLoop, urlencoded] using hnext

lemma within_urlencodeLoop (raw : Bool) (s : List UInt8) (pos : ℕ) (h : b.Within size)
    (hsize : pos + (urlencoded raw s).length ≤ size) : (urlencodeLoop raw s b pos).1.Within size := by
  induction s generalizing b pos with
  | nil => exact h
  | cons c s ih =>
    simp only [urlencoded, List.flatMap_cons, List.length_append] at hsize ih
    apply ih
    · rw [Buf.within_put]
      exact ⟨by omega, h⟩
    · omega

/-- The text is followed by the encoded one and a terminator. -/
theorem holds_urlencode (raw : Bool) (s : List UInt8) (h : b.Holds text) :
    (urlencode b text.length s raw).Holds (text ++ (urlencoded raw s ++ [0])) := by
  obtain ⟨hloop, hpos⟩ := holds_urlencodeLoop raw s h
  have hput := hloop.put [0]
  rw [← hpos, List.append_assoc] at hput
  exact hput

theorem within_urlencode (raw : Bool) (s : List UInt8) (h : b.Holds text) (hwithin : b.Within size)
    (hsize : text.length + 3 * s.length < size) : (urlencode b text.length s raw).Within size := by
  have hlen := urlencoded_length raw s
  obtain ⟨-, hpos⟩ := holds_urlencodeLoop raw s h
  unfold urlencode
  dsimp only
  rw [Buf.within_put, hpos, List.length_append]
  constructor
  · simp only [List.length_cons, List.length_nil]
    omega
  · exact within_urlencodeLoop raw s text.length hwithin (by omega)

end Loop

/-! ### The string -/

/-- What a `+` stands for. -/
def plusByte (raw : Bool) : UInt8 := if raw then 43 else 32

/-- The string that the caller gets when `urlencode` has allocated it. -/
def urlencodedString (junk : ℕ → UInt8) (raw : Bool) (s : List UInt8) : List UInt8 :=
  (urlencode (Buf.fresh junk) 0 s raw).cstr 0 (3 * s.length + 1)

/-- The encoding is in the allocation of three bytes for each one and a terminator, it is made of the
safe bytes, and it can be read back. -/
structure Reversible (raw : Bool) (s : List UInt8) (b : Buf) (text : List UInt8) : Prop where
  held : b.Holds (text ++ [0])
  within : b.Within (3 * s.length + 1)
  length : text.length ≤ 3 * s.length
  alphabet : UrlText raw text
  decode : unescape (plusByte raw) text = s

lemma plusByte_form (raw : Bool) (hform : raw = false) : plusByte raw = 32 := by
  rw [hform]
  rfl

lemma urlencodedString_eq (junk : ℕ → UInt8) (raw : Bool) (s : List UInt8) :
    urlencodedString junk raw s = urlencoded raw s := by
  have hlen := urlencoded_length raw s
  have hheld := holds_urlencode raw s (Buf.holds_nil (Buf.fresh junk))
  rw [List.nil_append] at hheld
  exact hheld.cstr_zero (zero_not_mem_urlencoded raw s) (by omega)

/-- In both modes each string is encoded reversibly, so no two are encoded to the same one. -/
theorem urlencode_reversible (raw : Bool) :
    (∀ junk s, Reversible raw s (urlencode (Buf.fresh junk) 0 s raw) (urlencodedString junk raw s)) ∧
      ∀ junk junk' s s', urlencodedString junk raw s = urlencodedString junk' raw s' → s = s' := by
  constructor
  · intro junk s
    have hheld := holds_urlencode raw s (Buf.holds_nil (Buf.fresh junk))
    rw [List.nil_append] at hheld
    rw [urlencodedString_eq]
    constructor
    · exact hheld
    · apply within_urlencode raw s (Buf.holds_nil (Buf.fresh junk)) (Buf.within_fresh _ _)
      rw [List.length_nil]
      omega
    · exact urlencoded_length raw s
    · exact urlText_urlencoded raw s
    · exact unescape_urlencoded (plusByte_form raw) s
  · intro junk junk' s s' heq
    rw [urlencodedString_eq, urlencodedString_eq] at heq
    calc s = unescape (plusByte raw) (urlencoded raw s) := (unescape_urlencoded (plusByte_form raw) s).symm
      _ = unescape (plusByte raw) (urlencoded raw s') := by rw [heq]
      _ = s' := unescape_urlencoded (plusByte_form raw) s'

end GNUWeebBot.Proofs
