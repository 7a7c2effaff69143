import GNUWeebBot.Proofs.DecoderSpec
import Mathlib.Logic.Relation

/-!
# When the decoder is safe on hostile JSON
-/

namespace GNUWeebBot.Proofs

open Fill

/-- In the event and in the replies decoded with it, a sender that was parsed has a first name. -/
@[mk_iff] inductive SendersNamed : Tgev → Prop
  | mk (evt : Tgev) (hown : evt.header.senderParsed = true → evt.header.sender.firstName ≠ none)
      (hreply : ∀ reply, evt.replyTo = some reply → SendersNamed reply) : SendersNamed evt

/-- No callee was given what it does not take, the code is zero or a negative errno, and an event
that is accepted names its senders. -/
def DecodedSafely (decoded : Except Fault (ℤ × Tgev)) : Prop :=
  ∃ code evt, decoded = .ok (code, evt) ∧ (code = 0 ∨ code = -EINVAL) ∧ (code = 0 → SendersNamed evt)

/-! ### The condition on the JSON -/

def SenderNamed (jmsg : Json) : Prop := senderName jmsg ≠ none

/-- What a message must have where its decoder looks: arrays where it counts elements, an emoji
that is not null, and a first name that is not null where it accepts the message. -/
def WellTyped (jmsg : Json) : Prop :=
  match messageKind jmsg with
  | .text _ => HeaderOk jmsg → SenderNamed jmsg ∧ ArrayAt jmsg "entities"
  | .photo photos => (photos.array?).isSome ∧ (HeaderOk jmsg → SenderNamed jmsg ∧ CaptionOk jmsg)
  | .sticker jstk => EmojiOk jstk ∧ (StickerOk jstk → HeaderOk jmsg → SenderNamed jmsg)
  | .gif animation =>
    MediaOk animation → Has jmsg "document" → HeaderOk jmsg → SenderNamed jmsg ∧ CaptionOk jmsg
  | .unknown => (SenderOk jmsg → SenderNamed jmsg) ∧ (HeaderOk jmsg → ArrayAt jmsg "entities")

/-- The decoder of the message gets to the reply; those of photos and gifs never do. -/
def ReachesReply (jmsg : Json) : Prop :=
  match messageKind jmsg with
  | .text _ => HeaderOk jmsg
  | .sticker jstk => StickerOk jstk ∧ HeaderOk jmsg
  | .unknown => HeaderOk jmsg
  | _ => False

def DecodesReply (jmsg reply : Json) : Prop :=
  ReachesReply jmsg ∧ jmsg.getEx "reply_to_message" = some reply ∧ reply ≠ .null

/-! ### One message -/

/-- The code of an event that names its senders may be zero. -/
def NamedIfAccepted (code : ℤ) (evt : Tgev) : Prop := code = 0 → SendersNamed evt

lemma sendersNamed_of_headerOf (jmsg : Json) (evt : Tgev) (hheader : evt.header = headerOf jmsg) :
    SendersNamed evt ↔
      (SenderOk jmsg → SenderNamed jmsg) ∧ ∀ reply, evt.replyTo = some reply → SendersNamed reply := by
  obtain ⟨hparsed, hname⟩ := final_parseHeader_sender jmsg
  rw [sendersNamed_iff, hheader, headerOf, hparsed, SenderNamed]
  constructor
  · rintro ⟨hown, hreply⟩
    exact ⟨fun hok => hname hok ▸ hown hok, hreply⟩
  · rintro ⟨hown, hreply⟩
    exact ⟨fun hok => (hname hok).symm ▸ hown hok, hreply⟩

section Message

variable {jmsg : Json} {replyTo : Except Fault (Option Tgev)} {evt : Tgev}

/-- The reply was decoded without a fault, and it names its senders. -/
def ReplySafe (replyTo : Except Fault (Option Tgev)) : Prop :=
  ∃ reply, replyTo = .ok reply ∧ ∀ r, reply = some r → SendersNamed r

lemma not_accepted : (-EINVAL : ℤ) ≠ 0 := by decide

lemma exists_reply_iff {p : Prop} {q : Option Tgev → Prop} :
    (∃ reply, replyTo = .ok reply ∧ p ∧ q reply) ↔ p ∧ ∃ reply, replyTo = .ok reply ∧ q reply := by
  constructor
  · rintro ⟨reply, hreply, hp, hq⟩
    exact ⟨hp, reply, hreply, hq⟩
  · rintro ⟨hp, reply, hreply, hq⟩
    exact ⟨reply, hreply, hp, hq⟩

theorem parseMessageWith_named :
    wp (parseMessageWith jmsg replyTo) (fun _ => NamedIfAccepted 0) NamedIfAccepted evt ↔
      WellTyped jmsg ∧ (ReachesReply jmsg → ReplySafe replyTo) := by
  have hsender : HeaderOk jmsg → SenderOk jmsg := fun h => h.1
  unfold WellTyped ReachesReply ReplySafe
  rcases messageKind_cases jmsg with ⟨text, htext, hkind⟩ | ⟨photos, htext, hphoto, hkind⟩ | ⟨jstk, htext, hphoto, hsticker, hkind⟩ |
    ⟨animation, htext, hphoto, hsticker, hgif, hkind⟩ | ⟨htext, hphoto, hsticker, hgif, hkind⟩
  · have hnamed := fun reply => sendersNamed_of_headerOf jmsg { evt with msg := .text (textOf jmsg text reply) } rfl
    simp only [parseMessage_text htext, NamedIfAccepted, not_accepted, true_imp_iff, false_imp_iff, implies_true,
      true_and, hnamed, exists_reply_iff, hkind]
    tauto
  · have hnamed := fun elems => sendersNamed_of_headerOf jmsg { evt with msg := .photo (photoOf jmsg elems) } rfl
    simp only [parseMessage_photo htext hphoto, NamedIfAccepted, not_accepted, true_imp_iff, false_imp_iff,
      implies_true, true_and, hnamed, hkind]
    cases harray : photos.array? with
    | none => simp
    | some elems =>
      simp only [Tgev.replyTo, photoOf, Option.some.injEq, exists_eq_left', Option.isSome_some, reduceCtorEq]
      tauto
  · have hnamed := fun reply => sendersNamed_of_headerOf jmsg
      { evt with msg := .sticker { sticker := stickerOf jstk, header := headerOf jmsg, replyTo := reply } } rfl
    simp only [parseMessage_sticker htext hphoto hsticker, NamedIfAccepted, not_accepted, true_imp_iff,
      false_imp_iff, implies_true, true_and, hnamed, exists_reply_iff, hkind]
    tauto
  · have hnamed := fun document => sendersNamed_of_headerOf jmsg
      { evt with msg := .gif (gifOf jmsg animation document) } rfl
    simp only [parseMessage_gif htext hphoto hsticker hgif, NamedIfAccepted, not_accepted, true_imp_iff,
      false_imp_iff, implies_true, true_and, hnamed, hkind]
    cases hdocument : jmsg.getEx "document" with
    | none => simp [not_has_of_none hdocument]
    | some document =>
      simp only [Tgev.replyTo, gifOf, Option.some.injEq, has_of_some hdocument, reduceCtorEq]
      constructor
      · intro h
        refine ⟨fun hmedia _ hheader => ?_, trivial⟩
        have hgood := h document hmedia rfl hheader
        exact ⟨hgood.2.1 (hsender hheader), hgood.1⟩
      · rintro ⟨h, -⟩ document' hmedia - hheader
        have hgood := h hmedia trivial hheader
        exact ⟨hgood.2, fun _ => hgood.1, fun reply hreply => hreply.elim⟩
  · have hshort := sendersNamed_of_headerOf jmsg { evt with msg := .unknown { header := headerOf jmsg } } rfl
    have hnamed := fun reply => sendersNamed_of_headerOf jmsg
      { evt with msg := .unknown (unknownOf jmsg reply) } rfl
    simp only [parseMessage_unknown htext hphoto hsticker hgif, NamedIfAccepted, true_imp_iff, hshort, hnamed,
      exists_reply_iff, hkind]
    simp only [Tgev.replyTo, unknownOf, reduceCtorEq, false_imp_iff, implies_true, and_true]
    constructor
    · rintro ⟨hpart, hwhole⟩
      refine ⟨⟨fun hsenderOk => ?_, fun hheader => (hwhole hheader).1⟩, fun hheader => (hwhole hheader).2.2⟩
      by_cases hheader : HeaderOk jmsg
      · exact (hwhole hheader).2.1 hsenderOk
      · exact hpart hheader hsenderOk
    · rintro ⟨⟨hown, harray⟩, hreply⟩
      exact ⟨fun _ => hown, fun hheader => ⟨harray hheader, hown, hreply hheader⟩⟩

/-- The codes that the decoder returns. -/
def Coded (P : ℤ → Tgev → Prop) (code : ℤ) (evt : Tgev) : Prop := (code = 0 ∨ code = -EINVAL) ∧ P code evt

lemma coded_zero {P : ℤ → Tgev → Prop} : Coded P 0 evt ↔ P 0 evt := by simp [Coded]

lemma coded_einval {P : ℤ → Tgev → Prop} : Coded P (-EINVAL) evt ↔ P (-EINVAL) evt := by simp [Coded]

lemma parseMessageWith_coded {P : ℤ → Tgev → Prop} :
    wp (parseMessageWith jmsg replyTo) (fun _ => Coded P 0) (Coded P) evt ↔
      wp (parseMessageWith jmsg replyTo) (fun _ => P 0) P evt := by
  rcases messageKind_cases jmsg with ⟨text, htext, -⟩ | ⟨photos, htext, hphoto, -⟩ | ⟨jstk, htext, hphoto, hsticker, -⟩ |
    ⟨animation, htext, hphoto, hsticker, hgif, -⟩ | ⟨htext, hphoto, hsticker, hgif, -⟩
  · simp only [parseMessage_text htext, coded_zero, coded_einval]
  · simp only [parseMessage_photo htext hphoto, coded_zero, coded_einval]
  · simp only [parseMessage_sticker htext hphoto hsticker, coded_zero, coded_einval]
  · simp only [parseMessage_gif htext hphoto hsticker hgif, coded_zero, coded_einval]
  · simp only [parseMessage_unknown htext hphoto hsticker hgif, coded_zero]

end Message

/-! ### Messages with their replies -/

lemma sendersNamed_replied (evt : Tgev) : SendersNamed { evt with isRepliedNode := true } ↔ SendersNamed evt := by
  rw [sendersNamed_iff, sendersNamed_iff]
  exact Iff.rfl

/-- A message that is decoded without a fault into an event that names its senders, or refused. -/
def MessageSafe (jmsg : Json) (evt : Tgev) : Prop :=
  wp (parseMessageJsonObj jmsg) (fun _ => NamedIfAccepted 0) NamedIfAccepted evt

lemma replySafe_parseRepliedMsg (jmsg : Json) :
    ReplySafe (parseRepliedMsg (call (parseMessageJsonObj jmsg) {})) ↔ MessageSafe jmsg {} := by
  unfold MessageSafe
  rw [← call_iff_wp]
  cases hcall : call (parseMessageJsonObj jmsg) {} with
  | error e => simp [ReplySafe, parseRepliedMsg]
  | ok decoded =>
    obtain ⟨code, evt⟩ := decoded
    by_cases hcode : code = 0
    · simp [ReplySafe, parseRepliedMsg, NamedIfAccepted, hcode, sendersNamed_replied]
    · simp [ReplySafe, parseRepliedMsg, NamedIfAccepted, hcode]

lemma replySafe_replyOf (jmsg : Json) :
    ReplySafe (replyOf jmsg) ↔
      ∀ reply, jmsg.getEx "reply_to_message" = some reply → reply ≠ .null → MessageSafe reply {} := by
  unfold replyOf
  cases hreply : jmsg.getEx "reply_to_message" with
  | none => simp [ReplySafe]
  | some reply =>
    by_cases hnull : reply = .null
    · simp [ReplySafe, hnull, Json.isNull]
    · simp [isNull_iff, hnull, replySafe_parseRepliedMsg]

/-- One step along the replies. -/
lemma messageSafe_step (jmsg : Json) (evt : Tgev) :
    MessageSafe jmsg evt ↔ WellTyped jmsg ∧ ∀ reply, DecodesReply jmsg reply → MessageSafe reply {} := by
  unfold MessageSafe
  rw [parseMessageJsonObj_eq, parseMessageWith_named, replySafe_replyOf]
  unfold DecodesReply MessageSafe
  grind

/-- A message is safe exactly if each message on its chain of replies that the decoder reaches is
well typed. -/
theorem messageSafe_iff (jmsg : Json) (evt : Tgev) :
    MessageSafe jmsg evt ↔ ∀ reply, Relation.ReflTransGen DecodesReply jmsg reply → WellTyped reply := by
  rw [messageSafe_step]
  constructor
  · rintro ⟨hself, hreplies⟩ reply hchain
    rcases Relation.ReflTransGen.cases_head hchain with rfl | ⟨first, hfirst, hrest⟩
    · exact hself
    · have hsize : sizeOf first < sizeOf jmsg := Json.sizeOf_getEx hfirst.2.1
      exact (messageSafe_iff first {}).mp (hreplies first hfirst) reply hrest
  · intro hall
    refine ⟨hall jmsg .refl, ?_⟩
    intro first hfirst
    have hsize : sizeOf first < sizeOf jmsg := Json.sizeOf_getEx hfirst.2.1
    exact (messageSafe_iff first {}).mpr (fun reply hrest => hall reply (.head hfirst hrest))
termination_by sizeOf jmsg

/-! ### Updates -/

/-- The update is not decoded as far as a message, or the messages it reaches are well typed. -/
def UpdateWellTyped (update : Json) : Prop :=
  Has update "update_id" → ∀ jmsg, update.getEx "message" = some jmsg →
    ∀ reply, Relation.ReflTransGen DecodesReply jmsg reply → WellTyped reply

lemma coded_of_refused (evt : Tgev) : Coded NamedIfAccepted (-EINVAL) evt :=
  ⟨Or.inr rfl, fun hzero => absurd hzero not_accepted⟩

lemma not_unlikely_neg (expr : ℤ) : ¬unlikely expr < 0 := by
  unfold unlikely
  split <;> decide

lemma wp_parseMessage_coded (update : Json) (evt : Tgev) :
    wp (parseMessage update) (fun _ => Coded NamedIfAccepted 0) (Coded NamedIfAccepted) evt ↔
      ∀ jmsg, update.getEx "message" = some jmsg → ∀ reply, Relation.ReflTransGen DecodesReply jmsg reply → WellTyped reply := by
  unfold parseMessage
  cases hmsg : update.getEx "message" with
  | none => simp [coded_of_refused]
  | some jmsg =>
    simp only [wp_bind, wp_need_some, wp_modify, parseMessageJsonObj_eq, parseMessageWith_coded]
    rw [← parseMessageJsonObj_eq]
    have hsafe := messageSafe_iff jmsg { evt with isRepliedNode := false }
    simpa [MessageSafe] using hsafe

/-- Where the tokener fails, the decoder goes on with a `NULL` object and finds no key in it. -/
lemma wp_internalTgEventLoadStr (tokener : List UInt8 → Option Json) (jsonStr : List UInt8) (evt : Tgev) :
    wp (internalTgEventLoadStr tokener jsonStr) (fun _ => Coded NamedIfAccepted 0) (Coded NamedIfAccepted) evt ↔
      ∀ update, tokener jsonStr = some update → UpdateWellTyped update := by
  unfold internalTgEventLoadStr tgEventJsonParse UpdateWellTyped
  cases htok : tokener jsonStr with
  | none => simp [not_unlikely_neg, parseUpdateId, Json.getEx, coded_of_refused]
  | some update =>
    cases hid : update.getEx "update_id" with
    | none => simp [not_unlikely_neg, parseUpdateId, hid, not_has_of_none hid, coded_of_refused]
    | some id => simp [not_unlikely_neg, parseUpdateId, hid, has_of_some hid, wp_parseMessage_coded]

theorem decoder_safe_iff_wellTyped (tokener : List UInt8 → Option Json) (jsonStr : List UInt8) :
    DecodedSafely (tgEventLoadStr tokener jsonStr) ↔
      ∀ update, tokener (cString jsonStr ++ [0]) = some update → UpdateWellTyped update := by
  rw [← wp_internalTgEventLoadStr tokener (cString jsonStr ++ [0]) {}, ← call_iff_wp]
  exact Iff.rfl

/-- An update whose photo is a number. -/
def photoNumber : List UInt8 := ascii "\x7b\"update_id\":1,\"message\":\x7b\"photo\":1\x7d\x7d"

/-- The tokener on that update. -/
def photoNumberTokener (bytes : List UInt8) : Option Json :=
  if bytes = photoNumber ++ [0] then
    some (.object [(ascii "update_id", .int 1), (ascii "message", .object [(ascii "photo", .int 1)])])
  else none

theorem photoNumber_aborts :
    tgEventLoadStr photoNumberTokener photoNumber = .error .arrayLength ∧
      ¬DecodedSafely (tgEventLoadStr photoNumberTokener photoNumber) := by
  have hload : tgEventLoadStr photoNumberTokener photoNumber = .error .arrayLength := by
    have htok : photoNumberTokener (cString photoNumber ++ [0]) =
        some (.object [(ascii "update_id", .int 1), (ascii "message", .object [(ascii "photo", .int 1)])]) := by
      rw [photoNumberTokener, if_pos (by decide)]
    simp only [tgEventLoadStr, internalTgEventLoadStr, tgEventJsonParse, htok, parseMessage, parseMessageJsonObj_eq]
    rfl
  refine ⟨hload, ?_⟩
  rw [hload]
  rintro ⟨code, evt, hok, -⟩
  cases hok

end GNUWeebBot.Proofs
