import GNUWeebBot.Proofs.DecoderChecks

/-!
# What each message decodes to

One equivalence for each kind of message says when the decoder faults, when it returns `-EINVAL`,
and which event it leaves.
-/

namespace GNUWeebBot.Proofs

open Fill

/-- The decoder that takes a message, with the value it starts from. -/
inductive MessageKind
  | text (text : Json)
  | photo (photos : Json)
  | sticker (jstk : Json)
  | gif (animation : Json)
  | unknown

def messageKind (jmsg : Json) : MessageKind :=
  match jmsg.getEx "text", jmsg.getEx "photo", jmsg.getEx "sticker", jmsg.getEx "animation" with
  | some text, _, _, _ => .text text
  | none, some photos, _, _ => .photo photos
  | none, none, some jstk, _ => .sticker jstk
  | none, none, none, some animation => .gif animation
  | none, none, none, none => .unknown

/-- The keys that decide about the kind. -/
lemma messageKind_cases (jmsg : Json) :
    (∃ text, jmsg.getEx "text" = some text ∧ messageKind jmsg = .text text) ∨
    (∃ photos, jmsg.getEx "text" = none ∧ jmsg.getEx "photo" = some photos ∧ messageKind jmsg = .photo photos) ∨
    (∃ jstk, jmsg.getEx "text" = none ∧ jmsg.getEx "photo" = none ∧ jmsg.getEx "sticker" = some jstk ∧
      messageKind jmsg = .sticker jstk) ∨
    (∃ animation, jmsg.getEx "text" = none ∧ jmsg.getEx "photo" = none ∧ jmsg.getEx "sticker" = none ∧
      jmsg.getEx "animation" = some animation ∧ messageKind jmsg = .gif animation) ∨
    (jmsg.getEx "text" = none ∧ jmsg.getEx "photo" = none ∧ jmsg.getEx "sticker" = none ∧
      jmsg.getEx "animation" = none ∧ messageKind jmsg = .unknown) := by
  unfold messageKind
  cases jmsg.getEx "text" with
  | some text => simp
  | none =>
    cases jmsg.getEx "photo" with
    | some photos => simp
    | none =>
      cases jmsg.getEx "sticker" with
      | some jstk => simp
      | none => cases jmsg.getEx "animation" <;> simp

/-- The header as far as it is decoded. -/
def headerOf (jmsg : Json) : TgevHeader := final (parseHeader jmsg) {}

section Decoders

variable {jmsg : Json} {replyTo : Except Fault (Option Tgev)} {P : ℤ → Tgev → Prop} {evt : Tgev}

lemma returnUnless_text (h : jmsg.getEx "text" = none) :
    returnUnless (-ECANCELED) (parseEventText jmsg replyTo) evt = .next () evt :=
  returnUnless_need_none h _ _

lemma returnUnless_photo (h : jmsg.getEx "photo" = none) :
    returnUnless (-ECANCELED) (parseEventPhoto jmsg) evt = .next () evt :=
  returnUnless_need_none h _ _

lemma returnUnless_sticker (h : jmsg.getEx "sticker" = none) :
    returnUnless (-ECANCELED) (parseEventSticker jmsg replyTo) evt = .next () evt :=
  returnUnless_need_none h _ _

lemma returnUnless_gif (h : jmsg.getEx "animation" = none) :
    returnUnless (-ECANCELED) (parseEventGif jmsg) evt = .next () evt :=
  returnUnless_need_none h _ _

lemma canceled_ne : (0 : ℤ) ≠ -ECANCELED ∧ -EINVAL ≠ -ECANCELED := by decide

def textOf (jmsg text : Json) (replyTo : Option Tgev) : TgevText Tgev :=
  { header := headerOf jmsg
    text := text.getString
    entityC := (entitiesOf jmsg "entities").1
    entities := (entitiesOf jmsg "entities").2
    replyTo }

theorem parseMessage_text {text : Json} (hkind : jmsg.getEx "text" = some text) :
    wp (parseMessageWith jmsg replyTo) (fun _ => P 0) P evt ↔
      (¬HeaderOk jmsg → P (-EINVAL) { evt with msg := .text { header := headerOf jmsg, text := text.getString } }) ∧
      (HeaderOk jmsg → ArrayAt jmsg "entities" ∧
        ∃ reply, replyTo = .ok reply ∧ P 0 { evt with msg := .text (textOf jmsg text reply) }) := by
  have hheader := parseHeader_checks jmsg
  simp only [parseMessageWith, wp_bind, wp_returnUnless, if_neg canceled_ne.1, parseEventText, hkind, wp_need_some, wp_part,
    wp_modify, hheader.wp_iff, if_neg canceled_ne.2, wp_parseEntitiesAt, wp_lift]
  tauto

def photoOf (jmsg : Json) (elems : List Json) : TgevPhoto Tgev :=
  { header := headerOf jmsg
    photoC := uint16 elems.length
    photo := photosOf elems
    caption := (captionOf jmsg).1
    captionEntityC := (captionOf jmsg).2.1
    captionEntities := (captionOf jmsg).2.2
    replyTo := none }

theorem parseMessage_photo {photos : Json} (htext : jmsg.getEx "text" = none) (hkind : jmsg.getEx "photo" = some photos) :
    wp (parseMessageWith jmsg replyTo) (fun _ => P 0) P evt ↔
      ∃ elems, photos.array? = some elems ∧
        (¬HeaderOk jmsg → P (-EINVAL)
          { evt with msg := .photo { header := headerOf jmsg, photoC := uint16 elems.length, photo := photosOf elems } }) ∧
        (HeaderOk jmsg → CaptionOk jmsg ∧ P 0 { evt with msg := .photo (photoOf jmsg elems) }) := by
  have hheader := parseHeader_checks jmsg
  simp only [parseMessageWith, wp_bind, wp_of_next (returnUnless_text htext), wp_returnUnless, if_neg canceled_ne.1,
    parseEventPhoto, hkind, wp_need_some, wp_part]
  cases harray : photos.array? with
  | none => simp [jsonArrayLength, harray]
  | some elems =>
    simp only [jsonArrayLength, harray, wp_pure, wp_modify, wp_parseTgeviPhotos harray, hheader.wp_iff,
      if_neg canceled_ne.2, wp_parseCaption, Option.some.injEq, exists_eq_left']
    tauto

def stickerOf (jstk : Json) : TgeviSticker := final (parseTgeviSticker jstk) {}

theorem parseMessage_sticker {jstk : Json} (htext : jmsg.getEx "text" = none) (hphoto : jmsg.getEx "photo" = none)
    (hkind : jmsg.getEx "sticker" = some jstk) :
    wp (parseMessageWith jmsg replyTo) (fun _ => P 0) P evt ↔
      EmojiOk jstk ∧
      (¬StickerOk jstk → P (-EINVAL) { evt with msg := .sticker { sticker := stickerOf jstk } }) ∧
      (StickerOk jstk → ¬HeaderOk jmsg →
        P (-EINVAL) { evt with msg := .sticker { sticker := stickerOf jstk, header := headerOf jmsg } }) ∧
      (StickerOk jstk → HeaderOk jmsg → ∃ reply, replyTo = .ok reply ∧
        P 0 { evt with msg := .sticker { sticker := stickerOf jstk, header := headerOf jmsg, replyTo := reply } }) := by
  have hheader := parseHeader_checks jmsg
  simp only [parseMessageWith, wp_bind, wp_of_next (returnUnless_text htext), wp_of_next (returnUnless_photo hphoto),
    wp_returnUnless, if_neg canceled_ne.1, parseEventSticker, hkind, wp_need_some, wp_part]
  by_cases hemoji : EmojiOk jstk
  · have hsticker := parseTgeviSticker_checks hemoji
    simp only [hsticker.wp_iff, hheader.wp_iff, if_neg canceled_ne.2, wp_lift, wp_modify]
    tauto
  · obtain ⟨s', hfault⟩ := parseTgeviSticker_fault hemoji {}
    simp only [wp, hfault, hemoji, false_and]

def gifOf (jmsg animation document : Json) : TgevGif Tgev :=
  { header := headerOf jmsg
    animation := final (parseTgeviMedia animation) {}
    document := final (parseTgeviFile document) {}
    caption := (captionOf jmsg).1
    captionEntityC := (captionOf jmsg).2.1
    captionEntities := (captionOf jmsg).2.2
    replyTo := none }

theorem parseMessage_gif {animation : Json} (htext : jmsg.getEx "text" = none) (hphoto : jmsg.getEx "photo" = none)
    (hsticker : jmsg.getEx "sticker" = none) (hkind : jmsg.getEx "animation" = some animation) :
    wp (parseMessageWith jmsg replyTo) (fun _ => P 0) P evt ↔
      (¬(MediaOk animation ∧ Has jmsg "document") →
        P (-EINVAL) { evt with msg := .gif { animation := final (parseTgeviMedia animation) {} } }) ∧
      ∀ document, MediaOk animation → jmsg.getEx "document" = some document →
        (¬HeaderOk jmsg → P (-EINVAL) { evt with msg := .gif {
          animation := final (parseTgeviMedia animation) {}
          document := final (parseTgeviFile document) {}
          header := headerOf jmsg } }) ∧
        (HeaderOk jmsg → CaptionOk jmsg ∧ P 0 { evt with msg := .gif (gifOf jmsg animation document) }) := by
  have hheader := parseHeader_checks jmsg
  have hmedia := parseTgeviMedia_checks animation
  simp only [parseMessageWith, wp_bind, wp_of_next (returnUnless_text htext), wp_of_next (returnUnless_photo hphoto),
    wp_of_next (returnUnless_sticker hsticker), wp_returnUnless, if_neg canceled_ne.1, parseEventGif, hkind, wp_need_some,
    wp_part, wp_ignore, hmedia.wp_iff, hheader.wp_iff, wp_need_key, (parseTgeviFile_checks _).wp_iff,
    Classical.imp_and_neg_imp_iff,
    if_neg canceled_ne.2, wp_parseCaption, wp_modify]
  cases hdocument : jmsg.getEx "document" with
  | none =>
    have hhas := not_has_of_none hdocument
    simp only [hhas, and_false, not_false_eq_true, reduceCtorEq]
    tauto
  | some document =>
    have hhas := has_of_some hdocument
    simp only [hhas, and_true, Option.some.injEq, forall_eq', not_true_eq_false, false_imp_iff]
    constructor
    · intro h
      refine ⟨h.2, ?_⟩
      intro document' hmediaOk hdoc
      subst hdoc
      exact ⟨(h.1 hmediaOk).2, (h.1 hmediaOk).1⟩
    · intro h
      exact ⟨fun hmediaOk => ⟨(h.2 document hmediaOk rfl).2, (h.2 document hmediaOk rfl).1⟩, h.1⟩

def unknownOf (jmsg : Json) (replyTo : Option Tgev) : TgevUnknown Tgev :=
  { header := headerOf jmsg
    entityC := (entitiesOf jmsg "entities").1
    entities := (entitiesOf jmsg "entities").2
    replyTo }

/-- An unknown message is accepted however far its decoder got. -/
theorem parseMessage_unknown (htext : jmsg.getEx "text" = none) (hphoto : jmsg.getEx "photo" = none)
    (hsticker : jmsg.getEx "sticker" = none) (hgif : jmsg.getEx "animation" = none) :
    wp (parseMessageWith jmsg replyTo) (fun _ => P 0) P evt ↔
      (¬HeaderOk jmsg → P 0 { evt with msg := .unknown { header := headerOf jmsg } }) ∧
      (HeaderOk jmsg → ArrayAt jmsg "entities" ∧
        ∃ reply, replyTo = .ok reply ∧ P 0 { evt with msg := .unknown (unknownOf jmsg reply) }) := by
  have hheader := parseHeader_checks jmsg
  simp only [parseMessageWith, wp_bind, wp_of_next (returnUnless_text htext), wp_of_next (returnUnless_photo hphoto),
    wp_of_next (returnUnless_sticker hsticker), wp_of_next (returnUnless_gif hgif), wp_ignore, parseEventUnknown, wp_part,
    hheader.wp_iff, wp_parseEntitiesAt, wp_modify, wp_lift]
  tauto

/-! ### Accepted messages -/

/-- The keys that the decoder of a message takes to return zero. -/
def Acceptable (jmsg : Json) : Prop :=
  match messageKind jmsg with
  | .text _ => HeaderOk jmsg
  | .photo _ => HeaderOk jmsg
  | .sticker jstk => StickerOk jstk ∧ HeaderOk jmsg
  | .gif animation => (MediaOk animation ∧ Has jmsg "document") ∧ HeaderOk jmsg
  | .unknown => True

/-- The events that accepted messages are decoded to. -/
inductive DecodesTo (jmsg : Json) (replyTo : Except Fault (Option Tgev)) : TgevMsg Tgev → Prop
  | text (text : Json) (reply : Option Tgev) (hkind : messageKind jmsg = .text text) :
      DecodesTo jmsg replyTo (.text (textOf jmsg text reply))
  | photo (photos : Json) (elems : List Json) (hkind : messageKind jmsg = .photo photos) :
      DecodesTo jmsg replyTo (.photo (photoOf jmsg elems))
  | sticker (jstk : Json) (reply : Option Tgev) (hkind : messageKind jmsg = .sticker jstk) (hemoji : EmojiOk jstk)
      (hsticker : StickerOk jstk) (hreply : replyTo = .ok reply) :
      DecodesTo jmsg replyTo (.sticker { sticker := stickerOf jstk, header := headerOf jmsg, replyTo := reply })
  | gif (animation document : Json) (hkind : messageKind jmsg = .gif animation) (hmedia : MediaOk animation) :
      DecodesTo jmsg replyTo (.gif (gifOf jmsg animation document))
  | unknown (eukw : TgevUnknown Tgev) (hkind : messageKind jmsg = .unknown) : DecodesTo jmsg replyTo (.unknown eukw)

lemma einval_ne_zero : (-EINVAL : ℤ) ≠ 0 := by decide

/-- The code and the event that a call ends with. -/
def Yields (code : ℤ) (evt' : Tgev) (ret : ℤ) (e : Tgev) : Prop := ret = code ∧ e = evt'

lemma wp_yields {code : ℤ} {evt' : Tgev} (h : call (parseMessageWith jmsg replyTo) evt = .ok (code, evt')) :
    wp (parseMessageWith jmsg replyTo) (fun _ => Yields code evt' 0) (Yields code evt') evt :=
  (call_eq_ok_iff _).mp h

theorem code_eq_zero_iff {code : ℤ} {evt' : Tgev} (h : call (parseMessageWith jmsg replyTo) evt = .ok (code, evt')) :
    code = 0 ↔ Acceptable jmsg := by
  have hwp := wp_yields h
  have hne := einval_ne_zero
  unfold Acceptable
  rcases messageKind_cases jmsg with ⟨text, htext, hkind⟩ | ⟨photos, htext, hphoto, hkind⟩ | ⟨jstk, htext, hphoto, hsticker, hkind⟩ |
    ⟨animation, htext, hphoto, hsticker, hgif, hkind⟩ | ⟨htext, hphoto, hsticker, hgif, hkind⟩
  · rw [parseMessage_text htext] at hwp
    grind [Yields]
  · rw [parseMessage_photo htext hphoto] at hwp
    grind [Yields]
  · rw [parseMessage_sticker htext hphoto hsticker] at hwp
    grind [Yields]
  · rw [parseMessage_gif htext hphoto hsticker hgif] at hwp
    cases hdocument : jmsg.getEx "document" with
    | none =>
      have hhas := not_has_of_none hdocument
      grind [Yields]
    | some document =>
      have hhas := has_of_some hdocument
      have hgood := hwp.2 document
      grind [Yields]
  · rw [parseMessage_unknown htext hphoto hsticker hgif] at hwp
    grind [Yields]

/-! An accepted message of each kind, with all that its decoder has seen. -/

section Accepted

variable {evt' : Tgev} (h : call (parseMessageWith jmsg replyTo) evt = .ok (0, evt'))
include h

lemma accepted_text {text : Json} (htext : jmsg.getEx "text" = some text) :
    HeaderOk jmsg ∧ ArrayAt jmsg "entities" ∧
      ∃ reply, replyTo = .ok reply ∧ evt' = { evt with msg := .text (textOf jmsg text reply) } := by
  have hwp := wp_yields h
  rw [parseMessage_text htext] at hwp
  have hheader : HeaderOk jmsg := by
    by_contra hnot
    exact einval_ne_zero (hwp.1 hnot).1
  obtain ⟨harray, reply, hreply, -, rfl⟩ := hwp.2 hheader
  exact ⟨hheader, harray, reply, hreply, rfl⟩

lemma accepted_photo {photos : Json} (htext : jmsg.getEx "text" = none) (hphoto : jmsg.getEx "photo" = some photos) :
    HeaderOk jmsg ∧ CaptionOk jmsg ∧
      ∃ elems, photos.array? = some elems ∧ evt' = { evt with msg := .photo (photoOf jmsg elems) } := by
  have hwp := wp_yields h
  rw [parseMessage_photo htext hphoto] at hwp
  obtain ⟨elems, harray, hbad, hgood⟩ := hwp
  have hheader : HeaderOk jmsg := by
    by_contra hnot
    exact einval_ne_zero (hbad hnot).1
  obtain ⟨hcaption, -, rfl⟩ := hgood hheader
  exact ⟨hheader, hcaption, elems, harray, rfl⟩

lemma accepted_sticker {jstk : Json} (htext : jmsg.getEx "text" = none) (hphoto : jmsg.getEx "photo" = none)
    (hsticker : jmsg.getEx "sticker" = some jstk) :
    EmojiOk jstk ∧ StickerOk jstk ∧ HeaderOk jmsg ∧ ∃ reply, replyTo = .ok reply ∧
      evt' = { evt with msg := .sticker { sticker := stickerOf jstk, header := headerOf jmsg, replyTo := reply } } := by
  have hwp := wp_yields h
  rw [parseMessage_sticker htext hphoto hsticker] at hwp
  obtain ⟨hemoji, hbad, hheaderBad, hgood⟩ := hwp
  have hstk : StickerOk jstk := by
    by_contra hnot
    exact einval_ne_zero (hbad hnot).1
  have hheader : HeaderOk jmsg := by
    by_contra hnot
    exact einval_ne_zero (hheaderBad hstk hnot).1
  obtain ⟨reply, hreply, -, rfl⟩ := hgood hstk hheader
  exact ⟨hemoji, hstk, hheader, reply, hreply, rfl⟩

lemma accepted_gif {animation : Json} (htext : jmsg.getEx "text" = none) (hphoto : jmsg.getEx "photo" = none)
    (hsticker : jmsg.getEx "sticker" = none) (hgif : jmsg.getEx "animation" = some animation) :
    MediaOk animation ∧ HeaderOk jmsg ∧ CaptionOk jmsg ∧ ∃ document, jmsg.getEx "document" = some document ∧
      evt' = { evt with msg := .gif (gifOf jmsg animation document) } := by
  have hwp := wp_yields h
  rw [parseMessage_gif htext hphoto hsticker hgif] at hwp
  obtain ⟨hbad, hgood⟩ := hwp
  have hmedia : MediaOk animation ∧ Has jmsg "document" := by
    by_contra hnot
    exact einval_ne_zero (hbad hnot).1
  obtain ⟨document, hdocument⟩ := Option.isSome_iff_exists.mp hmedia.2
  have hheader : HeaderOk jmsg := by
    by_contra hnot
    exact einval_ne_zero ((hgood document hmedia.1 hdocument).1 hnot).1
  obtain ⟨hcaption, -, rfl⟩ := (hgood document hmedia.1 hdocument).2 hheader
  exact ⟨hmedia.1, hheader, hcaption, document, hdocument, rfl⟩

lemma accepted_unknown (htext : jmsg.getEx "text" = none) (hphoto : jmsg.getEx "photo" = none)
    (hsticker : jmsg.getEx "sticker" = none) (hgif : jmsg.getEx "animation" = none) :
    (¬HeaderOk jmsg ∧ evt' = { evt with msg := .unknown { header := headerOf jmsg } }) ∨
      (HeaderOk jmsg ∧ ArrayAt jmsg "entities" ∧
        ∃ reply, replyTo = .ok reply ∧ evt' = { evt with msg := .unknown (unknownOf jmsg reply) }) := by
  have hwp := wp_yields h
  rw [parseMessage_unknown htext hphoto hsticker hgif] at hwp
  by_cases hheader : HeaderOk jmsg
  · obtain ⟨harray, reply, hreply, -, rfl⟩ := hwp.2 hheader
    exact .inr ⟨hheader, harray, reply, hreply, rfl⟩
  · obtain ⟨-, rfl⟩ := hwp.1 hheader
    exact .inl ⟨hheader, rfl⟩

/-- Only the union is written. -/
lemma accepted_frame : evt'.updateId = evt.updateId := by
  rcases messageKind_cases jmsg with ⟨text, htext, -⟩ | ⟨photos, htext, hphoto, -⟩ | ⟨jstk, htext, hphoto, hsticker, -⟩ |
    ⟨animation, htext, hphoto, hsticker, hgif, -⟩ | ⟨htext, hphoto, hsticker, hgif, -⟩
  · obtain ⟨-, -, reply, -, rfl⟩ := accepted_text h htext
    rfl
  · obtain ⟨-, -, elems, -, rfl⟩ := accepted_photo h htext hphoto
    rfl
  · obtain ⟨-, -, -, reply, -, rfl⟩ := accepted_sticker h htext hphoto hsticker
    rfl
  · obtain ⟨-, -, -, document, -, rfl⟩ := accepted_gif h htext hphoto hsticker hgif
    rfl
  · rcases accepted_unknown h htext hphoto hsticker hgif with ⟨-, rfl⟩ | ⟨-, -, reply, -, rfl⟩ <;> rfl

theorem decodesTo_of_accepted : DecodesTo jmsg replyTo evt'.msg := by
  rcases messageKind_cases jmsg with ⟨text, htext, hkind⟩ | ⟨photos, htext, hphoto, hkind⟩ | ⟨jstk, htext, hphoto, hsticker, hkind⟩ |
    ⟨animation, htext, hphoto, hsticker, hgif, hkind⟩ | ⟨htext, hphoto, hsticker, hgif, hkind⟩
  · obtain ⟨-, -, reply, -, rfl⟩ := accepted_text h htext
    exact .text text reply hkind
  · obtain ⟨-, -, elems, -, rfl⟩ := accepted_photo h htext hphoto
    exact .photo photos elems hkind
  · obtain ⟨hemoji, hstk, -, reply, hreply, rfl⟩ := accepted_sticker h htext hphoto hsticker
    exact .sticker jstk reply hkind hemoji hstk hreply
  · obtain ⟨hmedia, -, -, document, -, rfl⟩ := accepted_gif h htext hphoto hsticker hgif
    exact .gif animation document hkind hmedia
  · rcases accepted_unknown h htext hphoto hsticker hgif with ⟨-, rfl⟩ | ⟨-, -, reply, -, rfl⟩
    · exact .unknown _ hkind
    · exact .unknown _ hkind

end Accepted

end Decoders

/-! ### Replies -/

/-- What the decoder stores for the reply of a message, if it gets there. -/
def replyOf (jmsg : Json) : Except Fault (Option Tgev) :=
  match jmsg.getEx "reply_to_message" with
  | none => .ok none
  | some res => if res.isNull then .ok none else parseRepliedMsg (call (parseMessageJsonObj res) {})

lemma parseMessageJsonObj_eq (jmsg : Json) : parseMessageJsonObj jmsg = parseMessageWith jmsg (replyOf jmsg) := by
  rw [parseMessageJsonObj, replyOf]
  congr 1
  split <;> simp_all

lemma isNull_iff {jso : Json} : jso.isNull = true ↔ jso = .null := by
  cases jso <;> simp [Json.isNull]

end GNUWeebBot.Proofs
