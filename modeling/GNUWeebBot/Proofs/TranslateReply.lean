import GNUWeebBot.Model.Modules
import GNUWeebBot.Proofs.Translate

/-!
# A translation is answered exactly

The response of the translation service is collected in a buffer of a fixed size, whatever chunks it comes in. A
command is answered with one message if the response is complete, and with none otherwise.
-/

namespace GNUWeebBot.Translate

open Fill FormUrl Proofs

/-! ### The response -/

/-- What has been received is in the buffer, with room for its terminator. -/
structure Received (mem : TrWr) (text : List UInt8) : Prop where
  holds : mem.resText.Holds text
  len : mem.len = text.length
  room : text.length < CURL_BUFFER_SIZE - 1
  within : mem.resText.Within CURL_BUFFER_SIZE

lemma received_fresh (junk : ℕ → UInt8) : Received ⟨0, Buf.fresh junk⟩ [] where
  holds := Buf.holds_nil _
  len := rfl
  room := by decide
  within := Buf.within_fresh junk _

variable {mem : TrWr} {text data : List UInt8}

lemma translateWriteCallback_full (h : Received mem text) (hsmall : data.length < 2 ^ 63)
    (hfull : CURL_BUFFER_SIZE - 1 ≤ text.length + data.length) :
    translateWriteCallback mem data = (0, mem) ∧ 0 ≠ data.length := by
  have hroom := h.room
  have hsize : CURL_BUFFER_SIZE = 36864 := rfl
  have hwrap : (data.length + text.length) % 2 ^ 64 = data.length + text.length := Nat.mod_eq_of_lt (by omega)
  refine ⟨?_, by omega⟩
  unfold translateWriteCallback
  dsimp only
  rw [h.len, hwrap, if_pos (by omega)]

lemma translateWriteCallback_fits (h : Received mem text) (hfits : text.length + data.length < CURL_BUFFER_SIZE - 1) :
    (translateWriteCallback mem data).1 = data.length ∧ Received (translateWriteCallback mem data).2 (text ++ data) := by
  have hsize : CURL_BUFFER_SIZE = 36864 := rfl
  have hwrap : (data.length + text.length) % 2 ^ 64 = data.length + text.length := Nat.mod_eq_of_lt (by omega)
  unfold translateWriteCallback
  dsimp only
  rw [h.len, hwrap, if_neg (by omega)]
  refine ⟨rfl, h.holds.put data, ?_, ?_, ?_⟩
  · rw [List.length_append]
  · rw [List.length_append]
    exact hfits
  · rw [Buf.within_put]
    exact ⟨by omega, h.within⟩

/-- All chunks are taken exactly where they fit together. -/
lemma passChunks_spec (chunks : List (List UInt8)) (h : Received mem text) (hsmall : ∀ data ∈ chunks, data.length < 2 ^ 63) :
    (text.length + chunks.flatten.length < CURL_BUFFER_SIZE - 1 →
      (passChunks mem chunks).1 = true ∧ Received (passChunks mem chunks).2 (text ++ chunks.flatten)) ∧
    (¬text.length + chunks.flatten.length < CURL_BUFFER_SIZE - 1 →
      (passChunks mem chunks).1 = false ∧ (passChunks mem chunks).2.resText.Within CURL_BUFFER_SIZE) := by
  induction chunks generalizing mem text with
  | nil =>
    rw [List.flatten_nil, List.append_nil, List.length_nil, Nat.add_zero]
    exact ⟨fun _ => ⟨rfl, h⟩, fun hnot => absurd h.room hnot⟩
  | cons data chunks ih =>
    rw [List.forall_mem_cons] at hsmall
    rw [List.flatten_cons, List.length_append, ← List.append_assoc, ← Nat.add_assoc, passChunks]
    by_cases hfits : text.length + data.length < CURL_BUFFER_SIZE - 1
    · obtain ⟨htaken, hreceived⟩ := translateWriteCallback_fits h hfits
      have hrest := ih hreceived hsmall.2
      rw [List.length_append] at hrest
      rw [if_pos htaken]
      exact hrest
    · obtain ⟨hrefused, hne⟩ := translateWriteCallback_full h hsmall.1 (by omega)
      rw [hrefused, if_neg hne]
      exact ⟨fun hall => by omega, fun _ => ⟨rfl, h.within⟩⟩

/-- The response came as a whole, and there is room for it and its terminator. -/
def Fetched.Complete (fetched : Fetched) : Prop :=
  fetched.ok = true ∧ fetched.chunks.flatten.length < CURL_BUFFER_SIZE - 1

instance (fetched : Fetched) : Decidable (Fetched.Complete fetched) := by
  unfold Fetched.Complete
  infer_instance

lemma fetchApi_complete (junk : ℕ → UInt8) {fetched : Fetched} (h : Fetched.Complete fetched) :
    (fetchApi ⟨0, Buf.fresh junk⟩ (some fetched)).1 = 0 ∧
      (fetchApi ⟨0, Buf.fresh junk⟩ (some fetched)).2.resText.cstr 0 CURL_BUFFER_SIZE = cString fetched.chunks.flatten ∧
      (fetchApi ⟨0, Buf.fresh junk⟩ (some fetched)).2.resText.Within CURL_BUFFER_SIZE := by
  obtain ⟨hpass, -⟩ := passChunks_spec fetched.chunks (received_fresh junk) fetched.small
  obtain ⟨htaken, hreceived⟩ := hpass (by rw [List.length_nil, Nat.zero_add]; exact h.2)
  rw [List.nil_append] at hreceived
  have hsize : CURL_BUFFER_SIZE = 36864 := rfl
  have hroom := hreceived.room
  have hput := hreceived.holds.put [0]
  unfold fetchApi
  dsimp only
  rw [htaken, h.1, hreceived.len, Bool.and_self, if_pos rfl]
  refine ⟨rfl, ?_, ?_⟩
  · have hend : ((passChunks ⟨0, Buf.fresh junk⟩ fetched.chunks).2.resText.put fetched.chunks.flatten.length [0]).mem
        (0 + fetched.chunks.flatten.length) = 0 := by
      rw [Nat.zero_add]
      exact Buf.put_cons_mem _ _ 0 []
    have hread := hput.of_append
    dsimp only
    rw [Buf.cstr_eq_takeWhile _ 0 fetched.chunks.flatten.length CURL_BUFFER_SIZE (by omega) hend]
    exact congrArg (List.takeWhile _) hread
  · rw [Buf.within_put, List.length_singleton]
    exact ⟨by omega, hreceived.within⟩

lemma fetchApi_incomplete (junk : ℕ → UInt8) {fetched : Fetched} (h : ¬Fetched.Complete fetched) :
    (fetchApi ⟨0, Buf.fresh junk⟩ (some fetched)).1 = -EBADMSG ∧
      (fetchApi ⟨0, Buf.fresh junk⟩ (some fetched)).2.resText.Within CURL_BUFFER_SIZE := by
  obtain ⟨hpass, hrefuse⟩ := passChunks_spec fetched.chunks (received_fresh junk) fetched.small
  rw [List.length_nil, Nat.zero_add] at hpass hrefuse
  have hfailed : ((passChunks ⟨0, Buf.fresh junk⟩ fetched.chunks).1 && fetched.ok) = false := by
    by_cases hroom : fetched.chunks.flatten.length < CURL_BUFFER_SIZE - 1
    · have hok : fetched.ok = false := by
        by_contra hok
        exact h ⟨Bool.not_eq_false _ ▸ hok, hroom⟩
      rw [hok, Bool.and_false]
    · rw [(hrefuse hroom).1, Bool.false_and]
  have hwithin : (passChunks ⟨0, Buf.fresh junk⟩ fetched.chunks).2.resText.Within CURL_BUFFER_SIZE := by
    by_cases hroom : fetched.chunks.flatten.length < CURL_BUFFER_SIZE - 1
    · exact (hpass hroom).2.within
    · exact (hrefuse hroom).2
  unfold fetchApi
  dsimp only
  rw [hfailed]
  exact ⟨rfl, hwithin⟩

/-! ### The answer -/

section Answer

variable (jsonTokenerParse : List UInt8 → Json)

/-- The message that a complete response makes. -/
def replyMessage (fetched : Fetched) : List UInt8 :=
  cString (replyText (jsonTokenerParse (cString fetched.chunks.flatten)))

/-- What becomes of a command: one request for the translation and, where the response is complete, one message to where
the translated text is from. -/
def answered (payload : List UInt8) (subject : Tgev) (w : BotWorld) : ℤ × BotWorld :=
  let asked := { w with calls := w.calls ++ [.googleTranslate payload] }
  match w.fetch payload with
  | none => (-ENOMEM, asked)
  | some fetched =>
    if Fetched.Complete fetched then
      (0, asked.called (.plainMessage subject.chatId subject.header.msgId (replyMessage jsonTokenerParse fetched)))
    else (-EBADMSG, asked)

lemma handleTranslateModule_eq (payload : List UInt8) (subject : Tgev) (w : BotWorld) :
    handleTranslateModule jsonTokenerParse payload subject w =
      .next (answered jsonTokenerParse payload subject w).1 (answered jsonTokenerParse payload subject w).2 := by
  have hnomem : (-ENOMEM : ℤ) ≠ 0 := by decide
  have hbad : (-EBADMSG : ℤ) ≠ 0 := by decide
  have hstart : handleTranslateModule jsonTokenerParse payload subject w =
      (if (fetchApi ⟨0, Buf.fresh w.junk⟩ (w.fetch payload)).1 ≠ 0 then
        (pure (fetchApi ⟨0, Buf.fresh w.junk⟩ (w.fetch payload)).1 : Fill Fault BotWorld ℤ)
      else do
        sendReplyText subject (cString (replyText (jsonTokenerParse
          ((fetchApi ⟨0, Buf.fresh w.junk⟩ (w.fetch payload)).2.resText.cstr 0 CURL_BUFFER_SIZE))))
        pure 0) { w with calls := w.calls ++ [.googleTranslate payload] } := rfl
  rw [hstart]
  unfold answered
  cases hfetch : w.fetch payload with
  | none =>
    change (if (-ENOMEM : ℤ) ≠ 0 then _ else _ : Fill Fault BotWorld ℤ) _ = _
    rw [if_pos hnomem]
    rfl
  | some fetched =>
    dsimp only
    by_cases hcomplete : Fetched.Complete fetched
    · obtain ⟨hret, htext, -⟩ := fetchApi_complete w.junk hcomplete
      rw [hret, htext, if_neg (not_not_intro rfl), if_pos hcomplete]
      rfl
    · obtain ⟨hret, -⟩ := fetchApi_incomplete w.junk hcomplete
      rw [hret, if_pos hbad, if_neg hcomplete]
      rfl

lemma doTranslate_of_text {evt : TgevText Tgev} {text : List UInt8} (htext : evt.text = some text) (w : BotWorld) :
    doTranslate jsonTokenerParse evt w =
      (let parsed := parseCommand Tgev.replyTo getText (cString text) ⟨Buf.fresh w.junk, 0, { msg := .text evt }⟩
      if parsed.1 ≠ 0 then (pure parsed.1 : Fill Fault BotWorld ℤ)
      else handleTranslateModule jsonTokenerParse (parsed.2.payload.read 0 parsed.2.payloadLen) parsed.2.evt) w := by
  unfold doTranslate
  rw [htext]
  rfl

variable {jsonTokenerParse} in
/-- Where the parser accepts nothing the event is left alone. -/
lemma doTranslate_of_cancels {evt : TgevText Tgev} {text : List UInt8} (htext : evt.text = some text) {w : BotWorld}
    (h : Cancels ⟨Buf.fresh w.junk, 0, { msg := .text evt }⟩
      (parseCommand Tgev.replyTo getText (cString text) ⟨Buf.fresh w.junk, 0, { msg := .text evt }⟩)) :
    doTranslate jsonTokenerParse evt w = .next (-ECANCELED) w := by
  have hne : (-ECANCELED : ℤ) ≠ 0 := by decide
  rw [doTranslate_of_text jsonTokenerParse htext]
  dsimp only
  rw [h.ret, if_pos hne]
  rfl

end Answer

/-- The arguments that the text of an event has, where there is a text for them to be applied to. -/
structure Asks (evt : TgevText Tgev) (args : Args) (subject : Tgev) (text : List UInt8) : Prop where
  command : ∃ t, evt.text = some t ∧ (cString t).length < 0x2000 ∧ Command (cString t) args
  subject : args.subject Tgev.replyTo getText { msg := .text evt } = some (subject, text)

section Asks

variable (jsonTokenerParse : List UInt8 → Json) {evt : TgevText Tgev}

lemma doTranslate_of_asks {args : Args} {subject : Tgev} {text : List UInt8} (h : Asks evt args subject text) (w : BotWorld) :
    ∃ payload, formDecode payload = args.fields text ∧ doTranslate jsonTokenerParse evt w =
      .next (answered jsonTokenerParse payload subject w).1 (answered jsonTokenerParse payload subject w).2 := by
  have hin : (⟨Buf.fresh w.junk, 0, { msg := .text evt }⟩ : Out Tgev).payload.Within payloadSize := Buf.within_fresh _ _
  obtain ⟨⟨t, ht, hlen, hcommand⟩, hsubject⟩ := h
  rcases parseCommand_outcome Tgev.replyTo getText hin hlen hcommand with ⟨hnone, -⟩ | ⟨evt', R, haccepted, hok, -⟩
  · rw [hsubject] at hnone
    cases hnone
  · obtain ⟨rfl, rfl⟩ : subject = evt' ∧ text = R := by
      have hsame := hsubject.symm.trans haccepted.subject
      rw [Option.some_inj, Prod.mk.injEq] at hsame
      exact hsame
    refine ⟨_, haccepted.fields, ?_⟩
    rw [doTranslate_of_text jsonTokenerParse ht]
    dsimp only
    rw [hok, if_neg (not_not_intro rfl), haccepted.evt]
    exact handleTranslateModule_eq jsonTokenerParse _ _ w

lemma doTranslate_of_not_asks (h : ¬∃ args subject text, Asks evt args subject text) (w : BotWorld) :
    doTranslate jsonTokenerParse evt w = .next (-ECANCELED) w := by
  have hin : (⟨Buf.fresh w.junk, 0, { msg := .text evt }⟩ : Out Tgev).payload.Within payloadSize := Buf.within_fresh _ _
  cases ht : evt.text with
  | none =>
    unfold doTranslate
    rw [ht]
    rfl
  | some t =>
    apply doTranslate_of_cancels ht
    by_cases hcommand : (cString t).length < 0x2000 ∧ ∃ args, Command (cString t) args
    · obtain ⟨hlen, args, hargs⟩ := hcommand
      rcases parseCommand_outcome Tgev.replyTo getText hin hlen hargs with ⟨-, hcancels⟩ | ⟨subject, R, haccepted, -⟩
      · exact hcancels
      · exact absurd ⟨args, subject, R, ⟨t, ht, hlen, hargs⟩, haccepted.subject⟩ h
    · exact parseCommand_cancels hin hcommand

end Asks

end GNUWeebBot.Translate
