import GNUWeebBot.Proofs.UrlEncode

/-!
# A message cannot forge its body

What `urlencode` writes decodes to its input and has no separator in it, so a server reads the
fields out of the body of `tga_send_msg` that it was built from.
-/

namespace GNUWeebBot.Proofs

open FormUrl

/-! ### `urlencode` -/

lemma clean_urlencoded (s : List UInt8) : ∀ d ∈ urlencoded true s, d ≠ 38 ∧ d ≠ 61 ∧ d ≠ 0 :=
  (urlText_urlencoded true s).clean

lemma percentDecode_urlencoded (s : List UInt8) : percentDecode (urlencoded true s) = s := by
  rw [← unescape_space]
  exact unescape_urlencoded (fun hform => absurd hform (by decide)) s

/-! ### Numbers -/

/-- A byte of a decimal number. -/
def IsDecimal (c : UInt8) : Prop := c = 45 ∨ (48 ≤ c ∧ c ≤ 57)

lemma decimal_nat (n : ℕ) : ∀ c ∈ ascii (toString n), IsDecimal c := by
  intro c hc
  simp only [ascii, Nat.toString_eq_repr, Nat.toList_repr, List.mem_map] at hc
  obtain ⟨d, hd, rfl⟩ := hc
  have hdigit := Nat.isDigit_of_mem_toDigits (by decide) (by decide) hd
  right
  simp only [Char.isDigit, Bool.and_eq_true, decide_eq_true_eq, ge_iff_le, UInt32.le_iff_toNat_le] at hdigit
  have hlow : 48 ≤ d.toNat := hdigit.1
  have hhigh : d.toNat ≤ 57 := hdigit.2
  simp only [UInt8.le_iff_toNat_le, UInt8.toNat_ofNat']
  have hmod : d.toNat % 2 ^ 8 = d.toNat := Nat.mod_eq_of_lt (by omega)
  rw [hmod]
  exact ⟨hlow, hhigh⟩

lemma ascii_append (s t : String) : ascii (s ++ t) = ascii s ++ ascii t := by
  simp [ascii]

lemma ascii_int (i : ℤ) : ascii (toString i) = if 0 ≤ i then ascii (toString i.toNat)
    else 45 :: ascii (toString (-i).toNat) := by
  rw [Int.toString_eq_repr, Int.repr_eq_if]
  split
  · rw [Nat.toString_eq_repr]
  · rw [ascii_append, Nat.toString_eq_repr]
    rfl

lemma decimal_int (i : ℤ) : ∀ c ∈ ascii (toString i), IsDecimal c := by
  rw [ascii_int]
  split
  · exact decimal_nat _
  · rw [List.forall_mem_cons]
    exact ⟨Or.inl rfl, decimal_nat _⟩

lemma ascii_nat_length {n k : ℕ} (hk : 0 < k) (h : n < 10 ^ k) : (ascii (toString n)).length ≤ k := by
  rw [ascii, List.length_map, Nat.toString_eq_repr, Nat.toList_repr]
  exact (Nat.length_toDigits_le_iff (by decide) hk).mpr h

lemma ascii_int_length {i : ℤ} {k : ℕ} (hk : 0 < k) (h : i.natAbs < 10 ^ k) : (ascii (toString i)).length ≤ k + 1 := by
  rw [ascii_int]
  split
  · have hnat := ascii_nat_length hk (show i.toNat < 10 ^ k by omega)
    omega
  · have hnat := ascii_nat_length hk (show (-i).toNat < 10 ^ k by omega)
    rw [List.length_cons]
    omega

/-- A number is sent as it is. -/
lemma IsDecimal.clean {c : UInt8} (h : IsDecimal c) : c ≠ 43 ∧ c ≠ 37 ∧ c ≠ 38 ∧ c ≠ 61 ∧ c ≠ 0 := by
  rcases h with rfl | ⟨hlow, hhigh⟩
  · decide
  · rw [UInt8.le_iff_toNat_le] at hlow hhigh
    refine ⟨?_, ?_, ?_, ?_, ?_⟩ <;> rintro rfl <;> revert hlow hhigh <;> decide

lemma percentDecode_decimal {s : List UInt8} (h : ∀ c ∈ s, IsDecimal c) : percentDecode s = s :=
  percentDecode_of_plain (fun c hc => ⟨(h c hc).clean.1, (h c hc).clean.2.1⟩)

/-! ### `tga_send_msg` -/

section SendMsg

variable (ctx : TgaSendMsg)

/-- The fields of a message, each with its value. -/
def sendMsgFields (text : List UInt8) : List (List UInt8 × List UInt8) :=
  (ascii "chat_id", ascii (toString ctx.chatId.toInt)) ::
    ((if ctx.replyToMsgId ≠ 0 then [(ascii "reply_to_message_id", ascii (toString ctx.replyToMsgId.toNat))] else []) ++
      ((match ctx.parseMode with
        | .off => []
        | .html => [(ascii "parse_mode", ascii "html")]
        | .markdown => [(ascii "parse_mode", ascii "markdown")]) ++ [(ascii "text", text)]))

/-- What stands before the text. -/
def addressText : List UInt8 :=
  chatIdText ctx.chatId ++ (if ctx.replyToMsgId ≠ 0 then replyToText ctx.replyToMsgId else [])

def sendMsgHead : List UInt8 := addressText ctx ++ parseModeText ctx.parseMode ++ ascii "&text="

lemma addressText_length : (addressText ctx).length ≤ 69 := by
  have hchat : (ascii (toString ctx.chatId.toInt)).length ≤ 19 + 1 := by
    apply ascii_int_length (by decide)
    have hlow := ctx.chatId.le_toInt
    have hhigh := ctx.chatId.toInt_lt
    omega
  have hreply : (ascii (toString ctx.replyToMsgId.toNat)).length ≤ 20 := by
    apply ascii_nat_length (by decide)
    have hlt := ctx.replyToMsgId.toNat_lt
    omega
  have hchatName : (ascii "chat_id=").length = 8 := rfl
  have hreplyName : (ascii "&reply_to_message_id=").length = 21 := rfl
  unfold addressText chatIdText replyToText
  split <;> simp only [List.length_append, List.length_nil] <;> omega

lemma parseModeText_length (mode : ParseMode) : (parseModeText mode).length ≤ 20 := by
  cases mode <;> decide

lemma sendMsgHead_length : (sendMsgHead ctx).length ≤ 95 := by
  have haddress := addressText_length ctx
  have hmode := parseModeText_length ctx.parseMode
  have htext : (ascii "&text=").length = 6 := rfl
  simp only [sendMsgHead, List.length_append]
  omega

lemma zero_not_mem_sendMsgHead : 0 ∉ sendMsgHead ctx := by
  have hdecimal : ∀ {s : List UInt8}, (∀ c ∈ s, IsDecimal c) → 0 ∉ s := fun h hmem => (h 0 hmem).clean.2.2.2.2 rfl
  have hchat := hdecimal (decimal_int ctx.chatId.toInt)
  have hreply := hdecimal (decimal_nat ctx.replyToMsgId.toNat)
  have hchatName : 0 ∉ ascii "chat_id=" := by decide
  have hreplyName : 0 ∉ ascii "&reply_to_message_id=" := by decide
  have htext : 0 ∉ ascii "&text=" := by decide
  have hmode : 0 ∉ parseModeText ctx.parseMode := by cases ctx.parseMode <;> decide
  unfold sendMsgHead addressText chatIdText replyToText
  split <;>
    simp only [List.mem_append, List.not_mem_nil, hchat, hreply, hchatName, hreplyName, htext, hmode, or_self, not_false_eq_true]

/-- The head and the text are the joined fields. -/
lemma sendMsgHead_append (text : List UInt8) :
    sendMsgHead ctx ++ text = [38].intercalate ((sendMsgFields ctx text).map joinField) := by
  have htext : ascii "&text=" = 38 :: (ascii "text" ++ [61]) := rfl
  have hchat : ascii "chat_id=" = ascii "chat_id" ++ [61] := rfl
  have hreply : ascii "&reply_to_message_id=" = 38 :: (ascii "reply_to_message_id" ++ [61]) := rfl
  have hhtml : ascii "&parse_mode=html" = 38 :: (ascii "parse_mode" ++ 61 :: ascii "html") := rfl
  have hmarkdown : ascii "&parse_mode=markdown" = 38 :: (ascii "parse_mode" ++ 61 :: ascii "markdown") := rfl
  unfold sendMsgHead sendMsgFields addressText chatIdText replyToText parseModeText
  cases ctx.parseMode <;> split <;>
    simp [List.intercalate, joinField, htext, hchat, hreply, hhtml, hmarkdown]

/-! The buffer -/

lemma snprintf_eq_put {b : Buf} {off size : ℕ} {bytes : List UInt8} (h : bytes.length < size) :
    snprintf b off size bytes = b.put off (bytes ++ [0]) := by
  unfold snprintf
  rw [if_neg (by omega), List.take_of_length_le (by omega)]

lemma holds_snprintf {b : Buf} {text bytes : List UInt8} {size : ℕ} (h : b.Holds text) (hsize : bytes.length < size) :
    (snprintf b text.length size bytes).Holds (text ++ bytes) := by
  rw [snprintf_eq_put hsize]
  have hput := h.put (bytes ++ [0])
  rw [← List.append_assoc] at hput
  exact (Buf.holds_append_iff.mp hput).1

lemma within_snprintf {b : Buf} {off size total : ℕ} {bytes : List UInt8} (h : b.Within total)
    (hsize : bytes.length < size) (htotal : off + bytes.length < total) : (snprintf b off size bytes).Within total := by
  rw [snprintf_eq_put hsize, Buf.within_put, List.length_append, List.length_singleton]
  exact ⟨by omega, h⟩

variable {b : Buf}

lemma putAddress_spec (hlog : b.Within sendMsgSpace) :
    (putAddress b ctx).1.Holds (addressText ctx) ∧ (putAddress b ctx).2 = (addressText ctx).length ∧
      (putAddress b ctx).1.Within sendMsgSpace := by
  have hspace : sendMsgSpace = 25856 := rfl
  have hlen := addressText_length ctx
  unfold addressText at hlen ⊢
  rw [List.length_append] at hlen
  have hchat := holds_snprintf b.holds_nil (show (chatIdText ctx.chatId).length < sendMsgSpace by omega)
  have hchatIn := within_snprintf hlog (show (chatIdText ctx.chatId).length < sendMsgSpace by omega)
    (show 0 + (chatIdText ctx.chatId).length < sendMsgSpace by omega)
  unfold putAddress
  dsimp only
  by_cases hreply : ctx.replyToMsgId ≠ 0
  · rw [if_pos hreply] at hlen
    rw [if_pos hreply, if_pos hreply]
    have hsub : sizeSub sendMsgSpace (chatIdText ctx.chatId).length = sendMsgSpace - (chatIdText ctx.chatId).length :=
      sizeSub_of_le (by omega) (by omega)
    rw [hsub]
    refine ⟨?_, ?_, ?_⟩
    · exact holds_snprintf hchat (by omega)
    · rw [List.length_append]
    · exact within_snprintf hchatIn (by omega) (by omega)
  · rw [if_neg hreply, if_neg hreply, List.append_nil]
    exact ⟨hchat, rfl, hchatIn⟩

lemma putSendMsgHead_spec (hlog : b.Within sendMsgSpace) :
    (putSendMsgHead b ctx).1.Holds (sendMsgHead ctx) ∧ (putSendMsgHead b ctx).2 = (sendMsgHead ctx).length ∧
      (putSendMsgHead b ctx).1.Within sendMsgSpace := by
  have hspace : sendMsgSpace = 25856 := rfl
  have hlen := sendMsgHead_length ctx
  have htext : (ascii "&text=").length = 6 := rfl
  obtain ⟨haddress, hpos, hin⟩ := putAddress_spec ctx hlog
  have hmode := haddress.put (parseModeText ctx.parseMode)
  have hhead := hmode.put (ascii "&text=" ++ [0])
  rw [← List.append_assoc] at hhead
  unfold sendMsgHead at hlen ⊢
  rw [List.length_append, List.length_append] at hlen
  unfold putSendMsgHead
  dsimp only
  rw [hpos]
  rw [List.length_append] at hhead
  refine ⟨?_, ?_, ?_⟩
  · exact (Buf.holds_append_iff.mp hhead).1
  · rw [List.length_append, List.length_append, htext]
  · rw [Buf.within_put, Buf.within_put, List.length_append, List.length_singleton]
    exact ⟨by omega, by omega, hin⟩

lemma sendMsgTextMax_eq {pos : ℕ} (hpos : pos ≤ 95) : sendMsgTextMax pos = (0x6500 - pos) / 3 - 1 := by
  unfold sendMsgTextMax
  rw [sizeSub_of_le (show pos ≤ sendMsgSpace by unfold sendMsgSpace; omega) (by decide)]
  unfold sendMsgSpace
  rw [sizeSub_of_le (by omega) (by omega)]

/-- The body, and where it is written. -/
lemma tgaSendMsg_spec (hlog : b.Within sendMsgSpace) :
    (tgaSendMsg b ctx).cstr 0 sendMsgSpace =
        sendMsgHead ctx ++ urlencoded true (ctx.text.take ((0x6500 - (sendMsgHead ctx).length) / 3 - 1)) ∧
      (tgaSendMsg b ctx).Within sendMsgSpace := by
  have hspace : sendMsgSpace = 25856 := rfl
  have hlen := sendMsgHead_length ctx
  obtain ⟨hhead, hpos, hin⟩ := putSendMsgHead_spec ctx hlog
  unfold tgaSendMsg
  dsimp only
  rw [hpos, sendMsgTextMax_eq hlen]
  generalize hmax : (0x6500 - (sendMsgHead ctx).length) / 3 - 1 = max
  have htake : (ctx.text.take max).length ≤ max := List.length_take_le _ _
  have hcode := urlencoded_length true (ctx.text.take max)
  constructor
  · have hall := holds_urlencode true (ctx.text.take max) hhead
    rw [← List.append_assoc] at hall
    have hzero : 0 ∉ sendMsgHead ctx ++ urlencoded true (ctx.text.take max) := by
      intro hmem
      rw [List.mem_append] at hmem
      rcases hmem with hmem | hmem
      · exact zero_not_mem_sendMsgHead ctx hmem
      · exact zero_not_mem_urlencoded true _ hmem
    have hfuel : (sendMsgHead ctx ++ urlencoded true (ctx.text.take max)).length < sendMsgSpace := by
      rw [List.length_append]
      omega
    exact hall.cstr_zero hzero hfuel
  · exact within_urlencode true _ hhead hin (by omega)

lemma sendMsgFields_clean {code : List UInt8} (hcode : ∀ d ∈ code, d ≠ 38 ∧ d ≠ 61 ∧ d ≠ 0) :
    ∀ f ∈ sendMsgFields ctx code, 38 ∉ f.1 ∧ 61 ∉ f.1 ∧ 38 ∉ f.2 := by
  have hdecimal : ∀ {s : List UInt8}, (∀ c ∈ s, IsDecimal c) → 38 ∉ s := fun h hmem => (h 38 hmem).clean.2.2.1 rfl
  have hchat := hdecimal (decimal_int ctx.chatId.toInt)
  have hreply := hdecimal (decimal_nat ctx.replyToMsgId.toNat)
  have htext : 38 ∉ code := fun hmem => (hcode 38 hmem).1 rfl
  have hchatName : 38 ∉ ascii "chat_id" ∧ 61 ∉ ascii "chat_id" := by decide
  have hreplyName : 38 ∉ ascii "reply_to_message_id" ∧ 61 ∉ ascii "reply_to_message_id" := by decide
  have htextName : 38 ∉ ascii "text" ∧ 61 ∉ ascii "text" := by decide
  have hmodeName : 38 ∉ ascii "parse_mode" ∧ 61 ∉ ascii "parse_mode" := by decide
  have hmode : 38 ∉ ascii "html" ∧ 38 ∉ ascii "markdown" := by decide
  intro f hf
  unfold sendMsgFields at hf
  simp only [List.mem_cons, List.mem_append] at hf
  rcases hf with rfl | hf | hf | hf
  · exact ⟨hchatName.1, hchatName.2, hchat⟩
  · split at hf
    · rw [List.mem_singleton.mp hf]
      exact ⟨hreplyName.1, hreplyName.2, hreply⟩
    · cases hf
  · cases hm : ctx.parseMode with
    | off => simp [hm] at hf
    | html =>
      rw [hm] at hf
      rw [List.mem_singleton.mp hf]
      exact ⟨hmodeName.1, hmodeName.2, hmode.1⟩
    | markdown =>
      rw [hm] at hf
      rw [List.mem_singleton.mp hf]
      exact ⟨hmodeName.1, hmodeName.2, hmode.2⟩
  · rcases hf with rfl | hf
    · exact ⟨htextName.1, htextName.2, htext⟩
    · cases hf

/-- The names and the modes need no encoding. -/
lemma percentDecode_names :
    percentDecode (ascii "chat_id") = ascii "chat_id" ∧
      percentDecode (ascii "reply_to_message_id") = ascii "reply_to_message_id" ∧
      percentDecode (ascii "text") = ascii "text" ∧ percentDecode (ascii "parse_mode") = ascii "parse_mode" ∧
      percentDecode (ascii "html") = ascii "html" ∧ percentDecode (ascii "markdown") = ascii "markdown" := by
  refine ⟨?_, ?_, ?_, ?_, ?_, ?_⟩ <;> exact percentDecode_of_plain (forall_mem_of_all (by decide))

/-- Only the text is encoded. -/
lemma sendMsgFields_decode (code : List UInt8) :
    (sendMsgFields ctx code).map (fun f => (percentDecode f.1, percentDecode f.2)) =
      sendMsgFields ctx (percentDecode code) := by
  have hchat := percentDecode_decimal (decimal_int ctx.chatId.toInt)
  have hreply := percentDecode_decimal (decimal_nat ctx.replyToMsgId.toNat)
  unfold sendMsgFields
  cases ctx.parseMode <;> split <;>
    simp only [List.map_cons, List.map_append, List.map_nil, hchat, hreply, percentDecode_names]

end SendMsg

/-- Whatever the text has in it, a server reads the fields of the message out of the body, with as much
of the text as there is room for, and nothing is written outside the buffer. -/
theorem sendMsg_body_exact (ctx : TgaSendMsg) (junk : ℕ → UInt8) (htext : 0 ∉ ctx.text) :
    let buf := tgaSendMsg (Buf.fresh junk) ctx
    let body := buf.cstr 0 sendMsgSpace
    let pos := (sendMsgHead ctx).length
    body.take pos = sendMsgHead ctx ∧
      formDecode body = sendMsgFields ctx (ctx.text.take (min ctx.text.length ((0x6500 - pos) / 3 - 1))) ∧
        buf.Within 0x6500 := by
  intro buf body pos
  obtain ⟨hbody, hin⟩ : body = sendMsgHead ctx ++ urlencoded true (ctx.text.take ((0x6500 - pos) / 3 - 1)) ∧
      buf.Within sendMsgSpace := tgaSendMsg_spec ctx (Buf.within_fresh junk sendMsgSpace)
  refine ⟨?_, ?_, hin⟩
  · rw [hbody, List.take_left]
  · have hne : sendMsgFields ctx (urlencoded true (ctx.text.take ((0x6500 - pos) / 3 - 1))) ≠ [] := List.cons_ne_nil _ _
    rw [hbody, sendMsgHead_append, formDecode_join hne (sendMsgFields_clean ctx (clean_urlencoded _)),
      sendMsgFields_decode, percentDecode_urlencoded, List.take_eq_take_min, Nat.min_comm]

/-- A text that tries to set another chat. -/
def forgingMsg : TgaSendMsg := ⟨-5, 9, ascii "a&chat_id=7%26+", .html⟩

theorem sendMsg_body_exact_forging :
    0 ∉ forgingMsg.text ∧ formDecode ((tgaSendMsg (Buf.fresh (fun _ => 0)) forgingMsg).cstr 0 sendMsgSpace) =
      [(ascii "chat_id", ascii "-5"), (ascii "reply_to_message_id", ascii "9"), (ascii "parse_mode", ascii "html"),
        (ascii "text", ascii "a&chat_id=7%26+")] :=
  ⟨by decide, (sendMsg_body_exact forgingMsg (fun _ => 0) (by decide)).2.1⟩

end GNUWeebBot.Proofs
