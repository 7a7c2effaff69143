import GNUWeebBot.Proofs.TranslateLabels

/-!
# The translate command

The parser accepts exactly the texts of the grammar whose arguments, and the replied-to text where
one is needed, are there, and the payload it writes decodes to them.
-/

namespace GNUWeebBot.Translate

open FormUrl Proofs

/-! ### The whole parser -/

section Parser

variable {E : Type} (getReplyTo : E → Option E) (getText : E → CharPtr)

/-- The event whose text is translated, with that text. -/
def Args.subject (evt : E) : Args → Option (E × List UInt8)
  | .text _ _ rest => some (evt, rest)
  | _ => replied getReplyTo getText evt

/-- The fields of the payload. -/
def Args.fields (text : List UInt8) : Args → List (List UInt8 × List UInt8)
  | .none => [(ascii "to", ascii "en"), (ascii "fr", ascii "auto"), (ascii "text", text)]
  | .one target => [(ascii "to", target), (ascii "fr", ascii "auto"), (ascii "text", text)]
  | .two source target => [(ascii "fr", source), (ascii "to", target), (ascii "text", text)]
  | .text source target _ => [(ascii "fr", source), (ascii "to", target), (ascii "text", text)]

/-- The payload up to the text. -/
def Args.head : Args → List UInt8
  | .none => ascii "to=en" ++ ascii "&fr=auto"
  | .one target => ascii "to=" ++ urlencoded true target ++ ascii "&fr=auto"
  | .two source target => ascii "fr=" ++ urlencoded true source ++ ascii "&to=" ++ urlencoded true target
  | .text source target _ => ascii "fr=" ++ urlencoded true source ++ ascii "&to=" ++ urlencoded true target

variable {getReplyTo getText} {out : Out E}

lemma head?_of_blank {ws : List UInt8} (hws : Blank ws) : ∀ c ∈ ws.head?, isWs c = true := by
  intro c hc
  exact hws c (List.mem_of_mem_head? hc)

lemma head?_append_blank {ws : List UInt8} (hws : Blank ws) (hne : ws ≠ []) (rest : List UInt8) :
    ∀ c ∈ (ws ++ rest).head?, isWs c = true := by
  intro c hc
  rw [List.head?_append_of_ne_nil _ hne] at hc
  exact head?_of_blank hws c hc

lemma IsCode.head?_append {code : List UInt8} (h : IsCode code) (rest : List UInt8) :
    ∀ c ∈ (code ++ rest).head?, isWs c = false := by
  intro c hc
  rw [List.head?_append_of_ne_nil _ h.nonempty] at hc
  exact h.word c (List.mem_of_mem_head? hc)

/-- After the name, white space leads to the first argument. -/
lemma parseCommand_ws {text name ws : List UInt8} {rest : List UInt8} (hlen : text.length < 0x2000)
    (htext : text = name ++ (ws ++ rest)) (hname : IsName name) (hne : ws ≠ []) (hws : Blank ws)
    (hrest : ∀ c ∈ rest.head?, isWs c = false) (hnonempty : rest ≠ []) (out : Out E) :
    parseCommand getReplyTo getText text out = parseSource getReplyTo getText out rest := by
  have hlong : ¬text.length > TEXT_BUFFER_SIZE / 4 - 1 := by
    unfold TEXT_BUFFER_SIZE
    omega
  obtain ⟨w, ws', rfl⟩ := List.exists_cons_of_ne_nil hne
  obtain ⟨c, rest', rfl⟩ := List.exists_cons_of_ne_nil hnonempty
  have hw : isWs w = true := hws w List.mem_cons_self
  have hskip : skipWs (ws' ++ c :: rest') = c :: rest' :=
    skipWs_append (fun d hd => hws d (List.mem_cons_of_mem _ hd)) hrest
  unfold parseCommand
  rw [if_neg hlong, htext, takeName_of_isName hname, List.cons_append]
  dsimp only
  rw [hw, hskip]
  rfl

lemma parseCommand_blank {text name ws : List UInt8} (hlen : text.length < 0x2000) (htext : text = name ++ ws)
    (hname : IsName name) (hws : Blank ws) (out : Out E) :
    parseCommand getReplyTo getText text out = outReplied0Arg getReplyTo getText out 0 := by
  have hlong : ¬text.length > TEXT_BUFFER_SIZE / 4 - 1 := by
    unfold TEXT_BUFFER_SIZE
    omega
  unfold parseCommand
  rw [if_neg hlong, htext, takeName_of_isName hname]
  cases ws with
  | nil => rfl
  | cons w ws =>
    have hw : isWs w = true := hws w List.mem_cons_self
    have hskip : skipWs ws = [] := skipWs_of_blank (fun d hd => hws d (List.mem_cons_of_mem _ hd))
    dsimp only
    rw [hw, hskip]
    rfl

variable (getReplyTo getText) in
/-- The target language with what follows it, after the source language. -/
lemma parseSource_two (hin : out.payload.Within payloadSize)
    {source between target tail : List UInt8} (hsource : IsCode source) (hne : between ≠ []) (hbetween : Blank between)
    (htarget : IsCode target) (htail : ∀ c ∈ tail.head?, isWs c = true)
    (hlen : tail.length < 0x2000) :
    Finishes out (parseSource getReplyTo getText out (source ++ (between ++ (target ++ tail))))
      (ascii "fr=" ++ urlencoded true source ++ ascii "&to=" ++ urlencoded true target)
      (match skipWs tail with
        | [] => replied getReplyTo getText out.evt
        | c :: rest => some (out.evt, c :: rest)) := by
  have hname : (ascii "fr=").length = 3 := rfl
  have hencoded := hsource.length_urlencoded
  have hskip : skipWs (between ++ (target ++ tail)) = target ++ tail :=
    skipWs_append hbetween (htarget.head?_append tail)
  obtain ⟨c, rest, hcons⟩ := List.exists_cons_of_ne_nil (l := target ++ tail) (by simp [htarget.nonempty])
  obtain ⟨payload, hwritten, heq⟩ := parseSource_target getReplyTo getText hsource
    (head?_append_blank hbetween hne (target ++ tail)) (hskip.trans hcons) hin
  rw [heq, ← hcons]
  have hspec := parseTarget_spec getReplyTo getText { out with payload } hwritten
    (by rw [List.length_append, hname]; omega) htarget htail hlen
  exact hspec.of_payload rfl rfl

variable (getReplyTo getText) in
/-- A text of the grammar. -/
lemma parseCommand_of_command (hin : out.payload.Within payloadSize) {text : List UInt8} {args : Args} (hlen : text.length < 0x2000) (h : Command text args) :
    Finishes out (parseCommand getReplyTo getText text out) args.head (args.subject getReplyTo getText out.evt) := by
  obtain ⟨name, rest, rfl, hname, hshape⟩ := h
  have hlenRest : rest.length < 0x2000 := by
    rw [List.length_append] at hlen
    omega
  cases hshape with
  | none hws =>
    rw [parseCommand_blank hlen rfl hname hws]
    exact outReplied0Arg_spec getReplyTo hin
  | @one ws target after hne hws htarget hafter =>
    rw [parseCommand_ws hlen rfl hname hne hws (htarget.head?_append after) (by simp [htarget.nonempty])]
    exact parseSource_one getReplyTo hin htarget (head?_of_blank hafter) (skipWs_of_blank hafter)
  | @two ws source between target after hne hws hsource hbetweenNe hbetween htarget hafter =>
    simp only [List.length_append] at hlenRest
    rw [parseCommand_ws hlen rfl hname hne hws (hsource.head?_append _) (by simp [hsource.nonempty])]
    have hspec := parseSource_two getReplyTo getText hin hsource hbetweenNe hbetween htarget
      (head?_of_blank hafter) (by omega)
    rw [skipWs_of_blank hafter] at hspec
    exact hspec
  | @text ws source between target after c rest hne hws hsource hbetweenNe hbetween htarget hafterNe hafter hc =>
    have hskip : skipWs (after ++ c :: rest) = c :: rest := skipWs_append hafter (by simpa using hc)
    simp only [List.length_append] at hlenRest
    rw [parseCommand_ws hlen rfl hname hne hws (hsource.head?_append _) (by simp [hsource.nonempty])]
    have hspec := parseSource_two getReplyTo getText hin hsource hbetweenNe hbetween htarget
      (head?_append_blank hafter hafterNe (c :: rest)) (by rw [List.length_append]; omega)
    rw [hskip] at hspec
    exact hspec

/-- What follows a code. -/
lemma blank_or_arg {tail : List UInt8} (htail : ∀ c ∈ tail.head?, isWs c = true) :
    (Blank tail ∧ skipWs tail = []) ∨
      ∃ ws c rest, ws ≠ [] ∧ Blank ws ∧ isWs c = false ∧ tail = ws ++ c :: rest ∧ skipWs tail = c :: rest := by
  obtain ⟨ws, hws, heq, hhead⟩ := exists_skipWs tail
  cases hskip : skipWs tail with
  | nil =>
    rw [hskip, List.append_nil] at heq
    exact .inl ⟨heq ▸ hws, rfl⟩
  | cons c rest =>
    rw [hskip] at heq hhead
    have hc : isWs c = false := hhead c rfl
    refine .inr ⟨ws, c, rest, ?_, hws, hc, heq, rfl⟩
    rintro rfl
    have hws : isWs c = true := htail c (by rw [heq]; rfl)
    rw [hc] at hws
    cases hws

/-- A target language that is too long cancels. -/
lemma parseTarget_cancels (hin : out.payload.Within payloadSize) {ptr : ℕ} {c : UInt8} {text : List UInt8} (hc : isWs c = false)
    (h : ∀ code tail, c :: text = code ++ tail → IsCode code → ¬∀ d ∈ tail.head?, isWs d = true) :
    Cancels out (parseTarget getReplyTo getText out ptr (c :: text)) := by
  unfold parseTarget
  cases hcode : takeCode 0 (c :: text) with
  | none => exact ⟨rfl, rfl, rfl, hin⟩
  | some p =>
    have hsome := takeCode_some hcode hc
    exact absurd hsome.2.2 (h p.1 p.2 hsome.1 hsome.2.1)

lemma parseSource_cancels (hin : out.payload.Within payloadSize) {ws : List UInt8} {c : UInt8} {text : List UInt8}
    (hne : ws ≠ []) (hws : Blank ws) (hc : isWs c = false)
    (h : ∀ args, ¬Shape (ws ++ c :: text) args) : Cancels out (parseSource getReplyTo getText out (c :: text)) := by
  cases hcode : takeCode 0 (c :: text) with
  | none =>
    unfold parseSource
    rw [hcode]
    exact ⟨rfl, rfl, rfl, hin⟩
  | some p =>
    obtain ⟨source, tail⟩ := p
    obtain ⟨heq, hsource, htail⟩ := takeCode_some hcode hc
    rw [heq] at h ⊢
    obtain ⟨hblank, -⟩ | ⟨between, d, rest, hbetweenNe, hbetween, hd, rfl, hskip⟩ := blank_or_arg htail
    · exact absurd (.one hne hws hsource hblank) (h _)
    · obtain ⟨payload, hwritten, hparse⟩ := parseSource_target getReplyTo getText hsource htail hskip hin
      rw [hparse]
      have hcancels : Cancels { out with payload } (parseTarget getReplyTo getText { out with payload }
          (ascii "fr=" ++ urlencoded true source).length (d :: rest)) := by
        apply parseTarget_cancels hwritten.within hd
        intro target tail' htarget hcode' htail'
        rw [htarget] at h
        obtain ⟨hblank, -⟩ | ⟨after, e, rest', hafterNe, hafter, he, rfl, -⟩ := blank_or_arg htail'
        · exact h _ (.two hne hws hsource hbetweenNe hbetween hcode' hblank)
        · exact h _ (.text hne hws hsource hbetweenNe hbetween hcode' hafterNe hafter he)
      exact ⟨hcancels.ret, hcancels.len, hcancels.evt, hcancels.within⟩

/-- Any other text. -/
lemma parseCommand_cancels (hin : out.payload.Within payloadSize) {text : List UInt8}
    (h : ¬(text.length < 0x2000 ∧ ∃ args, Command text args)) :
    Cancels out (parseCommand getReplyTo getText text out) := by
  have hcancel : Cancels out (-ECANCELED, out) := ⟨rfl, rfl, rfl, hin⟩
  unfold parseCommand
  by_cases hlong : text.length > TEXT_BUFFER_SIZE / 4 - 1
  · rw [if_pos hlong]
    exact hcancel
  rw [if_neg hlong]
  have hlen : text.length < 0x2000 := by
    unfold TEXT_BUFFER_SIZE at hlong
    omega
  cases htake : takeName text with
  | none => exact hcancel
  | some rest =>
    obtain ⟨name, rfl, hname⟩ := exists_isName htake
    have hshape : ∀ args, ¬Shape rest args := fun args hargs => h ⟨hlen, args, name, rest, rfl, hname, hargs⟩
    cases rest with
    | nil => exact absurd (.none (by simp [Blank])) (hshape .none)
    | cons w rest =>
      dsimp only
      cases hw : isWs w with
      | false => exact hcancel
      | true =>
        obtain ⟨ws, hws, heq, hhead⟩ := exists_skipWs rest
        have hblank : Blank (w :: ws) := List.forall_mem_cons.mpr ⟨hw, hws⟩
        simp only [Bool.not_true, Bool.false_eq_true, if_false]
        cases hskip : skipWs rest with
        | nil =>
          rw [hskip, List.append_nil] at heq
          rw [heq] at hshape
          exact absurd (.none hblank) (hshape .none)
        | cons c rest' =>
          rw [hskip] at heq hhead
          rw [heq] at hshape
          exact parseSource_cancels hin (by simp) hblank (hhead c rfl) hshape

/-! ### The payload read back -/

def encodeField (field : List UInt8 × List UInt8) : List UInt8 × List UInt8 := (field.1, urlencoded true field.2)

lemma Args.head_text (args : Args) (text : List UInt8) :
    args.head ++ ascii "&text=" ++ urlencoded true text =
      [38].intercalate (((args.fields text).map encodeField).map joinField) := by
  have htext : ascii "&text=" = 38 :: (ascii "text" ++ [61]) := rfl
  have hauto : ascii "&fr=auto" = 38 :: (ascii "fr" ++ 61 :: urlencoded true (ascii "auto")) := by decide
  have hen : ascii "to=en" = ascii "to" ++ 61 :: urlencoded true (ascii "en") := by decide
  have hfr : ascii "fr=" = ascii "fr" ++ [61] := rfl
  have hto : ascii "to=" = ascii "to" ++ [61] := rfl
  have hand : ascii "&to=" = 38 :: (ascii "to" ++ [61]) := rfl
  cases args <;>
    simp [Args.head, Args.fields, List.intercalate, encodeField, joinField, htext, hauto, hen, hfr, hto, hand]

lemma Args.fields_name {args : Args} {text : List UInt8} {field : List UInt8 × List UInt8} (h : field ∈ args.fields text) :
    field.1 ∈ [ascii "to", ascii "fr", ascii "text"] := by
  cases args <;>
  · simp only [Args.fields, List.mem_cons, List.not_mem_nil, or_false] at h
    obtain rfl | rfl | rfl := h <;> simp

/-- The fields as they were before they were encoded. -/
lemma formDecode_fields (args : Args) (text : List UInt8) :
    formDecode (args.head ++ ascii "&text=" ++ urlencoded true text) = args.fields text := by
  have hname : ∀ n ∈ [ascii "to", ascii "fr", ascii "text"], (38 ∉ n ∧ 61 ∉ n) ∧ ∀ c ∈ n, c ≠ 43 ∧ c ≠ 37 := by
    intro n hn
    simp only [List.mem_cons, List.not_mem_nil, or_false] at hn
    rcases hn with rfl | rfl | rfl
    · exact ⟨by decide, forall_mem_of_all (by decide)⟩
    · exact ⟨by decide, forall_mem_of_all (by decide)⟩
    · exact ⟨by decide, forall_mem_of_all (by decide)⟩
  have hne : (args.fields text).map encodeField ≠ [] := by cases args <;> simp [Args.fields]
  rw [Args.head_text, formDecode_join hne, List.map_map]
  · conv_rhs => rw [← List.map_id (args.fields text)]
    apply List.map_congr_left
    intro f hf
    have hplain := (hname f.1 (Args.fields_name hf)).2
    simp only [Function.comp_apply, encodeField]
    rw [percentDecode_of_plain hplain, percentDecode_urlencoded]
    rfl
  · intro f hf
    rw [List.mem_map] at hf
    obtain ⟨g, hg, rfl⟩ := hf
    have hclean := (hname g.1 (Args.fields_name hg)).1
    exact ⟨hclean.1, hclean.2, fun hmem => (clean_urlencoded g.2 38 hmem).1 rfl⟩

lemma zero_payload (args : Args) (text : List UInt8) : 0 ∉ args.head ++ ascii "&text=" ++ urlencoded true text := by
  have hnames : ∀ n ∈ [ascii "to=en", ascii "&fr=auto", ascii "to=", ascii "fr=", ascii "&to=", ascii "&text="], 0 ∉ n := by
    decide
  simp only [List.forall_mem_cons] at hnames
  have hzero := zero_not_mem_urlencoded true
  cases args <;>
  · simp only [Args.head, List.mem_append, hzero, or_false, not_or]
    tauto

lemma Args.length_head {command : List UInt8} {args : Args} (h : Command command args) : args.head.length ≤ 250 := by
  have hfr : (ascii "fr=").length = 3 := rfl
  have hto : (ascii "to=").length = 3 := rfl
  have hauto : (ascii "&fr=auto").length = 8 := rfl
  have hand : (ascii "&to=").length = 4 := rfl
  obtain ⟨name, rest, rfl, -, hshape⟩ := h
  cases hshape with
  | none => decide
  | one _ _ htarget =>
    have := htarget.length_urlencoded
    simp only [Args.head, List.length_append, hto, hauto]
    omega
  | two _ _ hsource _ _ htarget | text _ _ hsource _ _ htarget =>
    have := hsource.length_urlencoded
    have := htarget.length_urlencoded
    simp only [Args.head, List.length_append, hfr, hand]
    omega

/-- The text that is translated fits. -/
lemma Args.subject_length {command : List UInt8} {args : Args} {evt e : E} {text : List UInt8} (h : Command command args)
    (hlen : command.length < 0x2000) (hsubject : args.subject getReplyTo getText evt = some (e, text)) :
    text.length < 0x2000 := by
  have hreplied : replied getReplyTo getText evt = some (e, text) → text.length < 0x2000 := by
    intro h
    unfold replied at h
    split at h
    · cases h
    · rename_i replyTo _
      split at h
      · cases h
      · split at h
        · rename_i hshort
          cases h
          exact hshort
        · cases h
  obtain ⟨name, rest, rfl, -, hshape⟩ := h
  cases hshape with
  | none | one | two => exact hreplied hsubject
  | text =>
    cases hsubject
    simp only [List.length_append] at hlen
    omega

variable (getReplyTo getText) in
/-- What the parser left where it accepted the arguments. -/
structure Accepted (out : Out E) (args : Args) (r : ℤ × Out E) (evt : E) (text : List UInt8) : Prop where
  subject : args.subject getReplyTo getText out.evt = some (evt, text)
  fields : formDecode (r.2.payload.read 0 r.2.payloadLen) = args.fields text
  evt : r.2.evt = evt
  len : r.2.payloadLen = strlen r.2.payload 0

variable (getReplyTo getText) in
/-- The two outcomes of a text of the grammar. -/
lemma parseCommand_outcome (hin : out.payload.Within payloadSize) {text : List UInt8} {args : Args} (hlen : text.length < 0x2000) (h : Command text args) :
    (args.subject getReplyTo getText out.evt = none ∧ Cancels out (parseCommand getReplyTo getText text out)) ∨
      ∃ evt R, Accepted getReplyTo getText out args (parseCommand getReplyTo getText text out) evt R ∧
        (parseCommand getReplyTo getText text out).1 = 0 ∧
        (parseCommand getReplyTo getText text out).2.payload.Within payloadSize := by
  have hfinish := parseCommand_of_command getReplyTo getText hin hlen h
  cases hsubject : args.subject getReplyTo getText out.evt with
  | none =>
    rw [hsubject] at hfinish
    exact .inl ⟨rfl, hfinish⟩
  | some p =>
    obtain ⟨evt, R⟩ := p
    rw [hsubject] at hfinish
    have hends : Ends (parseCommand getReplyTo getText text out) (args.head ++ ascii "&text=" ++ urlencoded true R) evt :=
      hfinish
    have hR := Args.subject_length h hlen hsubject
    have hnul := zero_payload args R
    have hhead := Args.length_head h
    have hencoded := urlencoded_length true R
    have hshort : (args.head ++ ascii "&text=" ++ urlencoded true R).length < payloadSize := by
      have hname : (ascii "&text=").length = 6 := rfl
      have hsize : payloadSize = 32832 := rfl
      rw [List.length_append, List.length_append, hname]
      omega
    refine .inr ⟨evt, R, ⟨hsubject, ?_, hends.evt, ?_⟩, hends.ret, hends.within⟩
    · rw [hends.len, (Buf.holds_append_iff.mp hends.holds).1]
      exact formDecode_fields args R
    · rw [hends.len, strlen, hends.holds.cstr_zero hnul hshort]

/-- The parser accepts the texts of the grammar that have something to translate, writes their
fields, and leaves its results alone where it accepts nothing. -/
theorem translate_command_exact (getReplyTo : E → Option E) (getText : E → CharPtr)
    (htext : ∀ e R, getText e = some R → 0 ∉ R) (text : List UInt8) (hzero : 0 ∉ text) (out : Out E)
    (hin : out.payload.Within payloadSize) :
    let r := parseCommand getReplyTo getText text out
    (r.1 = 0 ↔ text.length < 0x2000 ∧ ∃ args, Command text args ∧ (args.subject getReplyTo getText out.evt).isSome) ∧
      (r.1 = 0 → ∀ args, Command text args → ∃ evt R, Accepted getReplyTo getText out args r evt R) ∧
      (r.1 ≠ 0 → r.1 = -ECANCELED ∧ r.2.evt = out.evt ∧ r.2.payloadLen = out.payloadLen) ∧
      r.2.payload.Within payloadSize := by
  intro r
  have hret : -ECANCELED ≠ (0 : ℤ) := by decide
  by_cases h : text.length < 0x2000 ∧ ∃ args, Command text args
  · have houtcome : ∀ args, Command text args → _ := fun args hargs =>
      parseCommand_outcome getReplyTo getText hin h.1 hargs
    refine ⟨⟨fun hok => ⟨h.1, ?_⟩, ?_⟩, fun hok args hargs => ?_, fun hne => ?_, ?_⟩
    · obtain ⟨args, hargs⟩ := h.2
      obtain ⟨-, hcancels⟩ | ⟨evt, R, haccepted, -⟩ := houtcome args hargs
      · exact absurd hok (hcancels.ret ▸ hret)
      · exact ⟨args, hargs, by simp [haccepted.subject]⟩
    · rintro ⟨-, args, hargs, hsome⟩
      obtain ⟨hnone, -⟩ | ⟨evt, R, -, hok, -⟩ := houtcome args hargs
      · simp [hnone] at hsome
      · exact hok
    · obtain ⟨-, hcancels⟩ | ⟨evt, R, haccepted, -⟩ := houtcome args hargs
      · exact absurd hok (hcancels.ret ▸ hret)
      · exact ⟨evt, R, haccepted⟩
    · obtain ⟨args, hargs⟩ := h.2
      obtain ⟨-, hcancels⟩ | ⟨evt, R, -, hok, -⟩ := houtcome args hargs
      · exact ⟨hcancels.ret, hcancels.evt, hcancels.len⟩
      · exact absurd hok hne
    · obtain ⟨args, hargs⟩ := h.2
      obtain ⟨-, hcancels⟩ | ⟨evt, R, -, -, hwithin⟩ := houtcome args hargs
      · exact hcancels.within
      · exact hwithin
  · have hcancels : Cancels out r := parseCommand_cancels hin h
    have hne : r.1 ≠ 0 := hcancels.ret ▸ hret
    refine ⟨⟨fun hok => absurd hok hne, ?_⟩, fun hok => absurd hok hne, ?_, hcancels.within⟩
    · rintro ⟨hlen, args, hargs, -⟩
      exact absurd ⟨hlen, args, hargs⟩ h
    · exact fun _ => ⟨hcancels.ret, hcancels.evt, hcancels.len⟩

end Parser

/-! ### White space at the end -/

/-- What follows the name where nothing but the text may follow the last code. -/
inductive StrictShape : List UInt8 → Args → Prop
  | none {ws : List UInt8} : Blank ws → StrictShape ws .none
  | one {ws target : List UInt8} : ws ≠ [] → Blank ws → IsCode target → StrictShape (ws ++ target) (.one target)
  | two {ws source between target : List UInt8} : ws ≠ [] → Blank ws → IsCode source → between ≠ [] →
    Blank between → IsCode target → StrictShape (ws ++ (source ++ (between ++ target))) (.two source target)
  | text {ws source between target after rest : List UInt8} : ws ≠ [] → Blank ws → IsCode source → between ≠ [] →
    Blank between → IsCode target → after ≠ [] → Blank after → rest ≠ [] →
    StrictShape (ws ++ (source ++ (between ++ (target ++ (after ++ rest))))) (.text source target rest)

def StrictCommand (text : List UInt8) (args : Args) : Prop :=
  ∃ name rest, text = name ++ rest ∧ IsName name ∧ StrictShape rest args

/-- A command, and the message it replies to. -/
inductive Sent
  | command
  | replied

def Sent.replyTo : Sent → Option Sent
  | command => some replied
  | replied => none

def Sent.text : Sent → CharPtr
  | command => some (ascii "tr en ")
  | replied => some (ascii "halo")

lemma Sent.zero_text (e : Sent) (R : List UInt8) (h : e.text = some R) : 0 ∉ R := by
  cases e <;> cases h <;> decide

def Sent.out : Out Sent := ⟨Buf.fresh (fun _ => 255), 0, .command⟩

lemma Sent.command_one : Command (ascii "tr en ") (.one (ascii "en")) := by
  refine ⟨ascii "tr", ascii " en ", rfl, .plain (by decide) (by decide), ?_⟩
  exact @Shape.one (ascii " ") (ascii "en") (ascii " ") (by decide) (forall_mem_of_all (by decide))
    ⟨by decide, by decide, forall_mem_of_all (by decide)⟩ (forall_mem_of_all (by decide))

theorem translate_command_exact_one :
    let r := parseCommand Sent.replyTo Sent.text (ascii "tr en ") Sent.out
    r.1 = 0 ∧ r.2.evt = .replied ∧ formDecode (r.2.payload.read 0 r.2.payloadLen) =
      [(ascii "to", ascii "en"), (ascii "fr", ascii "auto"), (ascii "text", ascii "halo")] := by
  intro r
  obtain ⟨hiff, haccepted, -⟩ := translate_command_exact Sent.replyTo Sent.text Sent.zero_text (ascii "tr en ")
    (by decide) Sent.out (Buf.within_fresh _ _)
  have hok : r.1 = 0 := hiff.mpr ⟨by decide, _, Sent.command_one, by decide⟩
  obtain ⟨evt, R, hsubject, hfields, hevt, -⟩ := haccepted hok _ Sent.command_one
  cases hsubject
  exact ⟨hok, hevt, hfields⟩

lemma not_strictCommand (args : Args) : ¬StrictCommand (ascii "tr en ") args := by
  rintro ⟨name, rest, htext, hname, hshape⟩
  have hrest : rest = ascii " en " := by
    have htake := takeName_of_isName hname rest
    rw [← htext] at htake
    exact (Option.some.inj htake).symm
  have hlast : rest.getLast? = some 32 := by rw [hrest]; rfl
  -- a code ends with a byte that is no white space
  have hcode : ∀ {front code : List UInt8}, IsCode code → (front ++ code).getLast? ≠ some 32 := by
    intro front code hcode hlast
    rw [List.getLast?_append_of_ne_nil _ hcode.nonempty] at hlast
    have hword := hcode.word 32 (List.mem_of_getLast? hlast)
    cases hword
  cases hshape with
  | none hws =>
    have hword := hws 101 (by rw [hrest]; decide)
    cases hword
  | one _ _ htarget => exact hcode htarget hlast
  | two _ _ _ _ _ htarget =>
    rw [← List.append_assoc, ← List.append_assoc] at hlast
    exact hcode htarget hlast
  | text hws _ hsource hbetween _ htarget hafter _ htextNe =>
    have hlen := congrArg List.length hrest
    have hlen' : (ascii " en ").length = 4 := rfl
    simp only [List.length_append, hlen'] at hlen
    have := List.length_pos_of_ne_nil hws
    have := List.length_pos_of_ne_nil hsource.nonempty
    have := List.length_pos_of_ne_nil hbetween
    have := List.length_pos_of_ne_nil htarget.nonempty
    have := List.length_pos_of_ne_nil hafter
    have := List.length_pos_of_ne_nil htextNe
    omega

/-- `tr en ` is accepted. -/
theorem trailing_space_accepted :
    ¬((parseCommand Sent.replyTo Sent.text (ascii "tr en ") Sent.out).1 = 0 ↔
      (ascii "tr en ").length < 0x2000 ∧ ∃ args, StrictCommand (ascii "tr en ") args ∧
        (args.subject Sent.replyTo Sent.text Sent.out.evt).isSome) := by
  intro h
  have hin : Sent.out.payload.Within payloadSize := Buf.within_fresh _ _
  have hends : Ends _ _ Sent.replied :=
    parseCommand_of_command Sent.replyTo Sent.text hin (by decide) Sent.command_one
  obtain ⟨-, args, hargs, -⟩ := h.mp hends.ret
  exact not_strictCommand args hargs

end GNUWeebBot.Translate
