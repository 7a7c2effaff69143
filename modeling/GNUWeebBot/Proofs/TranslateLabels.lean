import GNUWeebBot.Model.Translate
import GNUWeebBot.Proofs.FormBody

/-!
# The labels of the translate parser

`Command` is the grammar of the command, with its arguments. The loops take apart a text of the
grammar, and each label of `parse_command` finishes the payload it is given or cancels.
-/

namespace GNUWeebBot.Translate

open FormUrl Proofs Words

/-! ### The grammar -/

def Blank (ws : List UInt8) : Prop := ∀ c ∈ ws, isWs c = true

structure IsCode (code : List UInt8) : Prop where
  nonempty : code ≠ []
  short : code.length ≤ 31
  word : ∀ c ∈ code, isWs c = false

inductive Args
  | none
  | one (target : List UInt8)
  | two (source target : List UInt8)
  | text (source target rest : List UInt8)

/-- What may follow the name. -/
inductive Shape : List UInt8 → Args → Prop
  | none {ws : List UInt8} : Blank ws → Shape ws .none
  | one {ws target after : List UInt8} : ws ≠ [] → Blank ws → IsCode target → Blank after →
    Shape (ws ++ (target ++ after)) (.one target)
  | two {ws source between target after : List UInt8} : ws ≠ [] → Blank ws → IsCode source → between ≠ [] →
    Blank between → IsCode target → Blank after →
    Shape (ws ++ (source ++ (between ++ (target ++ after)))) (.two source target)
  | text {ws source between target after : List UInt8} {c : UInt8} {rest : List UInt8} : ws ≠ [] → Blank ws →
    IsCode source → between ≠ [] → Blank between → IsCode target → after ≠ [] → Blank after → isWs c = false →
    Shape (ws ++ (source ++ (between ++ (target ++ (after ++ c :: rest))))) (.text source target (c :: rest))

/-- An optional one of `!./~`, then `t` or `T`, then one of `rRlL`. -/
inductive IsName : List UInt8 → Prop
  | plain {t r : UInt8} : t ∈ ascii "tT" → r ∈ ascii "rRlL" → IsName [t, r]
  | marked {mark t r : UInt8} : mark ∈ ascii "!./~" → t ∈ ascii "tT" → r ∈ ascii "rRlL" → IsName [mark, t, r]

def Command (text : List UInt8) (args : Args) : Prop :=
  ∃ name rest, text = name ++ rest ∧ IsName name ∧ Shape rest args

/-! ### The loops -/

def isWord (c : UInt8) : Bool := !isWs c

lemma takeCode_eq (rcx : ℕ) (text : List UInt8) (hrcx : rcx < CODE_BUFFER_SIZE) :
    takeCode rcx text =
      if rcx + (text.takeWhile isWord).length < CODE_BUFFER_SIZE then
        some (text.takeWhile isWord, text.dropWhile isWord)
      else none := by
  induction text generalizing rcx with
  | nil => simp [takeCode, hrcx]
  | cons c text ih =>
    rw [takeCode]
    by_cases hws : isWs c = true
    · simp [isWord, hws, hrcx]
    · have hword : isWord c = true := by simpa [isWord] using hws
      rw [if_neg hws, List.takeWhile_cons_of_pos hword, List.dropWhile_cons_of_pos hword, List.length_cons]
      by_cases hfull : rcx + 1 ≥ CODE_BUFFER_SIZE
      · rw [if_pos hfull, if_neg (by omega)]
      · rw [if_neg hfull, ih (rcx + 1) (by omega)]
        have hadd : rcx + 1 + (text.takeWhile isWord).length =
            rcx + ((text.takeWhile isWord).length + 1) := by omega
        rw [hadd]
        split <;> rfl

/-- A code, and what follows it. -/
lemma takeCode_of_code {code rest : List UInt8} (hcode : IsCode code) (hrest : ∀ c ∈ rest.head?, isWs c = true) :
    takeCode 0 (code ++ rest) = some (code, rest) := by
  have hword : ∀ c ∈ code, isWord c = true := by
    intro c hc
    simp [isWord, hcode.word c hc]
  have hend : ∀ c ∈ rest.head?, isWord c = false := by
    intro c hc
    simp [isWord, hrest c hc]
  have hshort := hcode.short
  rw [takeCode_eq 0 _ (by decide), takeWhile_append hword hend, dropWhile_append hword hend,
    if_pos (by unfold CODE_BUFFER_SIZE; omega)]

lemma takeCode_some {text code rest : List UInt8} {c : UInt8} (h : takeCode 0 (c :: text) = some (code, rest))
    (hc : isWs c = false) : c :: text = code ++ rest ∧ IsCode code ∧ ∀ d ∈ rest.head?, isWs d = true := by
  rw [takeCode_eq 0 _ (by decide)] at h
  split at h
  · rename_i hshort
    simp only [Option.some.injEq, Prod.mk.injEq] at h
    obtain ⟨rfl, rfl⟩ := h
    refine ⟨List.takeWhile_append_dropWhile.symm, ⟨?_, ?_, ?_⟩, ?_⟩
    · simp [isWord, hc]
    · unfold CODE_BUFFER_SIZE at hshort
      omega
    · intro d hd
      simpa [isWord] using List.mem_takeWhile_imp hd
    · intro d hd
      simpa [isWord] using head?_dropWhile isWord (c :: text) d hd
  · cases h

lemma skipWs_append {ws rest : List UInt8} (hws : Blank ws) (hrest : ∀ c ∈ rest.head?, isWs c = false) :
    skipWs (ws ++ rest) = rest :=
  dropWhile_append hws hrest

lemma skipWs_of_blank {ws : List UInt8} (hws : Blank ws) : skipWs ws = [] := by
  have hskip : skipWs (ws ++ []) = [] := skipWs_append hws (by simp)
  rwa [List.append_nil] at hskip

lemma exists_skipWs (text : List UInt8) :
    ∃ ws, Blank ws ∧ text = ws ++ skipWs text ∧ ∀ c ∈ (skipWs text).head?, isWs c = false :=
  exists_cut isWs text

lemma myTolower_t (c : UInt8) : myTolower c = 116 ↔ c ∈ ascii "tT" :=
  forall_byte (P := fun c => myTolower c = 116 ↔ c ∈ ascii "tT") (by decide +kernel) c

lemma myTolower_rl (c : UInt8) : (myTolower c = 114 ∨ myTolower c = 108) ↔ c ∈ ascii "rRlL" :=
  forall_byte (P := fun c => (myTolower c = 114 ∨ myTolower c = 108) ↔ c ∈ ascii "rRlL") (by decide +kernel) c

lemma isMark_iff (c : UInt8) : (c = 33 ∨ c = 46 ∨ c = 47 ∨ c = 126) ↔ c ∈ ascii "!./~" :=
  forall_byte (P := fun c => (c = 33 ∨ c = 46 ∨ c = 47 ∨ c = 126) ↔ c ∈ ascii "!./~") (by decide +kernel) c

lemma not_isMark_of_t {c : UInt8} (h : c ∈ ascii "tT") : c ∉ ascii "!./~" :=
  forall_byte (P := fun c => c ∈ ascii "tT" → c ∉ ascii "!./~") (by decide +kernel) c h

lemma skipMark_cons (c : UInt8) (text : List UInt8) :
    skipMark (c :: text) = if c ∈ ascii "!./~" then text else c :: text := by
  simp only [skipMark, isMark_iff]

lemma takeName_of_skipMark {text : List UInt8} {t r : UInt8} {rest : List UInt8} (h : skipMark text = t :: r :: rest) :
    takeName text = if t ∈ ascii "tT" ∧ r ∈ ascii "rRlL" then some rest else none := by
  simp only [takeName, h, ← myTolower_t, ← myTolower_rl]
  by_cases ht : myTolower t = 116
  · by_cases hr : myTolower r = 114 ∨ myTolower r = 108
    · have hr' : ¬(myTolower r ≠ 114 ∧ myTolower r ≠ 108) := by tauto
      rw [if_neg (not_not.mpr ht), if_neg hr', if_pos ⟨ht, hr⟩]
    · have hr' : myTolower r ≠ 114 ∧ myTolower r ≠ 108 := by tauto
      rw [if_neg (not_not.mpr ht), if_pos hr', if_neg (fun h => hr h.2)]
  · rw [if_pos ht, if_neg (fun h => ht h.1)]

lemma takeName_of_isName {name : List UInt8} (h : IsName name) (rest : List UInt8) :
    takeName (name ++ rest) = some rest := by
  cases h with
  | plain ht hr =>
    rw [List.cons_append, List.cons_append, List.nil_append, takeName_of_skipMark (by
      rw [skipMark_cons, if_neg (not_isMark_of_t ht)]), if_pos ⟨ht, hr⟩]
  | marked hmark ht hr =>
    rw [List.cons_append, List.cons_append, List.cons_append, List.nil_append, takeName_of_skipMark (by
      rw [skipMark_cons, if_pos hmark]), if_pos ⟨ht, hr⟩]

lemma exists_isName {text rest : List UInt8} (h : takeName text = some rest) : ∃ name, text = name ++ rest ∧ IsName name := by
  match htext : skipMark text with
  | [] => simp [takeName, htext] at h
  | [_] => simp [takeName, htext] at h
  | t :: r :: rest' =>
    rw [takeName_of_skipMark htext] at h
    split at h
    · rename_i hname
      cases h
      cases text with
      | nil => cases htext
      | cons c text =>
        rw [skipMark_cons] at htext
        split at htext
        · rename_i hmark
          exact ⟨[c, t, r], by rw [htext]; rfl, .marked hmark hname.1 hname.2⟩
        · exact ⟨[t, r], htext, .plain hname.1 hname.2⟩
    · cases h

/-! ### The payload -/

/-- The payload starts with `text`, and it was written inside its array. -/
structure Written (b : Buf) (text : List UInt8) : Prop where
  holds : b.Holds text
  within : b.Within payloadSize

section Written

variable {b : Buf} {text : List UInt8}

lemma Written.put (h : Written b text) (bytes extra : List UInt8)
    (hlen : text.length + (bytes.length + extra.length) ≤ payloadSize) :
    Written (b.put text.length (bytes ++ extra)) (text ++ bytes) := by
  have hput := h.holds.put (bytes ++ extra)
  rw [← List.append_assoc] at hput
  constructor
  · exact (Buf.holds_append_iff.mp hput).1
  · rw [Buf.within_put, List.length_append]
    exact ⟨hlen, h.within⟩

lemma Written.urlencode (h : Written b text) (s : List UInt8)
    (hlen : text.length + 3 * s.length < payloadSize) :
    Written (urlencode b text.length s true) (text ++ urlencoded true s) ∧
      (urlencode b text.length s true).Holds (text ++ urlencoded true s ++ [0]) ∧
      strlen (urlencode b text.length s true) text.length = (urlencoded true s).length := by
  have hall := holds_urlencode true s h.holds
  have hcode := urlencoded_length true s
  have hstr := hall.cstr (zero_not_mem_urlencoded true s) (show (urlencoded true s).length < payloadSize by omega)
  rw [← List.append_assoc] at hall
  refine ⟨⟨(Buf.holds_append_iff.mp hall).1, within_urlencode true s h.holds h.within hlen⟩, hall, ?_⟩
  rw [strlen, hstr]

end Written

/-! ### The labels -/

section Labels

variable {E : Type} (getReplyTo : E → Option E) (getText : E → CharPtr)

/-- The replied-to event with its text, where it can be translated. -/
def replied (evt : E) : Option (E × List UInt8) :=
  match getReplyTo evt with
  | none => none
  | some replyTo =>
    match getText replyTo with
    | none => none
    | some text => if text.length < 0x2000 then some (replyTo, text) else none

/-- The parser returned zero with a payload. -/
structure Ends (r : ℤ × Out E) (text : List UInt8) (evt : E) : Prop where
  ret : r.1 = 0
  holds : r.2.payload.Holds (text ++ [0])
  len : r.2.payloadLen = text.length
  evt : r.2.evt = evt
  within : r.2.payload.Within payloadSize

structure Cancels (out : Out E) (r : ℤ × Out E) : Prop where
  ret : r.1 = -ECANCELED
  len : r.2.payloadLen = out.payloadLen
  evt : r.2.evt = out.evt
  within : r.2.payload.Within payloadSize

/-- What becomes of a payload that still needs the text. -/
def Finishes (out : Out E) (r : ℤ × Out E) (head : List UInt8) (subject : Option (E × List UInt8)) : Prop :=
  match subject with
  | none => Cancels out r
  | some (evt, text) => Ends r (head ++ ascii "&text=" ++ urlencoded true text) evt

variable {getText} {out : Out E} {head : List UInt8}

/-- The text is appended. -/
lemma ends_text (out : Out E) (h : Written out.payload head) (hhead : head.length ≤ 250) {text : List UInt8}
    (hlen : text.length < 0x2000) (evt : E) :
    let payload := urlencode (out.payload.put head.length (ascii "&text=" ++ [0, 0])) (head.length + 6) text true
    Ends (0, ⟨payload, head.length + 6 + strlen payload (head.length + 6), evt⟩)
      (head ++ ascii "&text=" ++ urlencoded true text) evt := by
  have hsize : payloadSize = 32832 := rfl
  have hname : (ascii "&text=").length = 6 := rfl
  have hput := h.put (ascii "&text=") [0, 0] (by simp only [hname, List.length_cons, List.length_nil]; omega)
  have hlength : (head ++ ascii "&text=").length = head.length + 6 := by rw [List.length_append, hname]
  obtain ⟨hwritten, hholds, hstr⟩ := hput.urlencode text (by rw [hlength]; omega)
  rw [hlength] at hholds hstr hwritten
  intro payload
  refine ⟨rfl, hholds, ?_, rfl, hwritten.within⟩
  dsimp only
  rw [hstr, List.length_append, hlength]

variable (getText) in
lemma outReplied2Arg_spec (out : Out E) (h : Written out.payload head) (hhead : head.length ≤ 250) :
    Finishes out (outReplied2Arg getReplyTo getText out head.length) head (replied getReplyTo getText out.evt) := by
  have hcancel : Cancels out (-ECANCELED, out) := ⟨rfl, rfl, rfl, h.within⟩
  unfold outReplied2Arg replied
  cases getReplyTo out.evt with
  | none => exact hcancel
  | some replyTo =>
    dsimp only
    cases hR : getText replyTo with
    | none => exact hcancel
    | some R =>
      dsimp only
      by_cases hlen : R.length < 0x2000
      · rw [if_pos hlen, if_neg (by unfold TEXT_BUFFER_SIZE; omega)]
        exact ends_text out h hhead hlen replyTo
      · rw [if_neg hlen, if_pos (by unfold TEXT_BUFFER_SIZE; omega)]
        exact hcancel

/-- Only the payload differs. -/
lemma Finishes.of_payload {out' : Out E} {r : ℤ × Out E} {subject : Option (E × List UInt8)}
    (h : Finishes out' r head subject) (hlen : out'.payloadLen = out.payloadLen) (hevt : out'.evt = out.evt) :
    Finishes out r head subject := by
  cases subject with
  | none => exact ⟨h.ret, h.len.trans hlen, h.evt.trans hevt, h.within⟩
  | some subject => exact h

variable (getText) in
lemma outReplied1Arg_spec (out : Out E) (h : Written out.payload head) (hhead : head.length ≤ 240) :
    Finishes out (outReplied1Arg getReplyTo getText out head.length) (head ++ ascii "&fr=auto")
      (replied getReplyTo getText out.evt) := by
  have hsize : payloadSize = 32832 := rfl
  have hname : (ascii "&fr=auto").length = 8 := rfl
  have hput := h.put (ascii "&fr=auto") [] (by simp only [hname, List.length_nil]; omega)
  rw [List.append_nil] at hput
  have hspec := outReplied2Arg_spec getReplyTo getText { out with payload := out.payload.put head.length (ascii "&fr=auto") } hput
    (by rw [List.length_append, hname]; omega)
  rw [List.length_append, hname] at hspec
  exact hspec.of_payload rfl rfl

lemma outReplied0Arg_spec (hin : out.payload.Within payloadSize) :
    Finishes out (outReplied0Arg getReplyTo getText out 0) (ascii "to=en" ++ ascii "&fr=auto")
      (replied getReplyTo getText out.evt) := by
  have hstart : Written out.payload [] := ⟨out.payload.holds_nil, hin⟩
  have hput := hstart.put (ascii "to=en") [0, 0, 0] (by decide)
  have hspec := outReplied1Arg_spec getReplyTo getText { out with payload := out.payload.put 0 (ascii "to=en" ++ [0, 0, 0]) }
    hput (by decide)
  exact hspec.of_payload rfl rfl

lemma IsCode.length_urlencoded {code : List UInt8} (h : IsCode code) : (urlencoded true code).length ≤ 93 := by
  have hcode := urlencoded_length true code
  have hshort := h.short
  omega

variable (getText) in
/-- The target language, and the text that follows it or the replied-to one. -/
lemma parseTarget_spec (out : Out E) (h : Written out.payload head) (hhead : head.length ≤ 96)
    {code tail : List UInt8} (hcode : IsCode code) (htail : ∀ c ∈ tail.head?, isWs c = true) (hlen : tail.length < 0x2000) :
    Finishes out (parseTarget getReplyTo getText out head.length (code ++ tail)) (head ++ ascii "&to=" ++ urlencoded true code)
      (match skipWs tail with
        | [] => replied getReplyTo getText out.evt
        | c :: rest => some (out.evt, c :: rest)) := by
  have hsize : payloadSize = 32832 := rfl
  have hname : (ascii "&to=").length = 4 := rfl
  have hshort := hcode.short
  have hencoded := hcode.length_urlencoded
  have hput := h.put (ascii "&to=") [] (by simp only [hname, List.length_nil]; omega)
  have hlength : (head ++ ascii "&to=").length = head.length + 4 := by rw [List.length_append, hname]
  obtain ⟨hwritten, -, hstr⟩ := hput.urlencode code (by rw [hlength]; omega)
  rw [hlength, List.append_nil] at hwritten hstr
  have hall : (head ++ ascii "&to=" ++ urlencoded true code).length ≤ 250 := by
    rw [List.length_append, hlength]
    omega
  have hptr : head.length + 4 + (urlencoded true code).length = (head ++ ascii "&to=" ++ urlencoded true code).length := by
    rw [List.length_append, hlength]
  unfold parseTarget
  rw [takeCode_of_code hcode htail]
  dsimp only
  rw [hstr, hptr]
  cases hskip : skipWs tail with
  | nil =>
    exact (outReplied2Arg_spec getReplyTo getText { out with payload := _ } hwritten hall).of_payload rfl rfl
  | cons c rest =>
    have hsuffix : c :: rest <:+ tail := by
      rw [← hskip]
      exact List.dropWhile_suffix isWs
    have hrestLen := hsuffix.length_le
    exact ends_text { out with payload := _ } hwritten hall (by omega) out.evt

/-- The payload after the source language. -/
lemma written_source (hin : out.payload.Within payloadSize) {code : List UInt8} (hcode : IsCode code) :
    Written (urlencode (out.payload.put 0 (ascii "fr=" ++ [0])) 3 code true) (ascii "fr=" ++ urlencoded true code) ∧
      strlen (urlencode (out.payload.put 0 (ascii "fr=" ++ [0])) 3 code true) 3 = (urlencoded true code).length := by
  have hsize : payloadSize = 32832 := rfl
  have hname : (ascii "fr=").length = 3 := rfl
  have hshort := hcode.short
  have hstart : Written out.payload [] := ⟨out.payload.holds_nil, hin⟩
  have hput := hstart.put (ascii "fr=") [0] (by decide)
  rw [List.nil_append] at hput
  obtain ⟨hwritten, -, hstr⟩ := hput.urlencode code (by omega)
  exact ⟨hwritten, hstr⟩

lemma parseSource_one (hin : out.payload.Within payloadSize) {code tail : List UInt8} (hcode : IsCode code)
    (htail : ∀ c ∈ tail.head?, isWs c = true) (hskip : skipWs tail = []) :
    Finishes out (parseSource getReplyTo getText out (code ++ tail)) (ascii "to=" ++ urlencoded true code ++ ascii "&fr=auto")
      (replied getReplyTo getText out.evt) := by
  have hencoded := hcode.length_urlencoded
  have hname : (ascii "to=").length = 3 := rfl
  obtain ⟨hwritten, hstr⟩ := written_source hin hcode
  -- `fr` is overwritten by `to`
  have hfront : Written ((urlencode (out.payload.put 0 (ascii "fr=" ++ [0])) 3 code true).put 0 (ascii "to"))
      (ascii "to=" ++ urlencoded true code) := by
    have hfr : ascii "fr=" ++ urlencoded true code = ascii "fr" ++ (ascii "=" ++ urlencoded true code) := rfl
    have hto : ascii "to=" ++ urlencoded true code = ascii "to" ++ (ascii "=" ++ urlencoded true code) := rfl
    have hholds := hwritten.holds
    rw [hfr] at hholds
    constructor
    · rw [hto]
      exact hholds.put_front rfl
    · rw [Buf.within_put]
      exact ⟨by decide, hwritten.within⟩
  have hptr : 3 + (urlencoded true code).length = (ascii "to=" ++ urlencoded true code).length := by
    rw [List.length_append, hname]
  have hspec := outReplied1Arg_spec getReplyTo getText { out with payload := _ } hfront (by rw [← hptr]; omega)
  unfold parseSource
  rw [takeCode_of_code hcode htail]
  dsimp only
  rw [hstr, hskip, hptr]
  exact hspec.of_payload rfl rfl

variable (getText) in
lemma parseSource_target {code tail : List UInt8} (hcode : IsCode code) (htail : ∀ c ∈ tail.head?, isWs c = true)
    {c : UInt8} {rest : List UInt8} (hskip : skipWs tail = c :: rest) (hin : out.payload.Within payloadSize) :
    ∃ payload, Written payload (ascii "fr=" ++ urlencoded true code) ∧
      parseSource getReplyTo getText out (code ++ tail) =
        parseTarget getReplyTo getText { out with payload } (ascii "fr=" ++ urlencoded true code).length (c :: rest) := by
  have hname : (ascii "fr=").length = 3 := rfl
  obtain ⟨hwritten, hstr⟩ := written_source hin hcode
  refine ⟨_, hwritten, ?_⟩
  unfold parseSource
  rw [takeCode_of_code hcode htail]
  dsimp only
  rw [hstr, hskip, List.length_append, hname]

end Labels

end GNUWeebBot.Translate
