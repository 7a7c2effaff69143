import GNUWeebBot.Model.TgevLayout
import GNUWeebBot.Proofs.DecoderSafety
import GNUWeebBot.Proofs.PartPaths

/-!
# Where `tge_get_reply_to` reads

The offset of `reply_to` in a `struct tgev_text` is the one of other members in the other
variants: the count of caption entities in a photo, the unique id of the thumbnail in a sticker,
the unique id of the animation in a gif.
-/

namespace GNUWeebBot.Proofs

open Fill CVal

/-! ### Offsets -/

lemma extent_headerMembers (header : TgevHeader) : extentAll 0 header.members = 192 := by
  simp [TgevHeader.members, extent, extentAll, string, TgeviFrom.members, TgeviChat.members, int64, bool8, alignUp,
    alignAll, align]

lemma offsetofTextReplyTo_eq : offsetofTextReplyTo = 232 := by decide +kernel

variable (addr : PtrKind → ℕ → ℕ)

/-- The members of a text event before `reply_to`. -/
def textFront (etext : TgevText Tgev) : List Member :=
  etext.header.members ++ etext.header.dates ++
    [("text", string etext.text),
     ("entity_c", .int 2 etext.entityC),
     ("entities", .ptr .array (etext.entityC != 0))]

lemma offsetOf_text (etext : TgevText Tgev) : offsetOf etext.members "reply_to" = 232 := by
  have hfront : etext.members = textFront etext ++ replyToMember etext.replyTo :: etext.header.flags := by
    simp [TgevText.members, textFront]
  have hnames : ∀ m ∈ textFront etext, m.1 ≠ "reply_to" := by
    simp [textFront, TgevHeader.members, TgevHeader.dates]
  have hextent : extentAll 0 (textFront etext) = 232 := by
    simp [textFront, extentAll_append, extent_headerMembers, TgevHeader.dates, extentAll, extent, string, int64, alignUp]
  rw [hfront, offsetOf, replyToMember, offsetFrom_append _ _ _ _ hnames, hextent]
  simp [align, alignUp]

lemma loadPtr_photo (ephoto : TgevPhoto Tgev) : loadPtr addr ephoto.members 232 = ephoto.captionEntityC % 2 ^ 16 := by
  let front := ephoto.header.members ++ ephoto.header.dates ++ ephoto.header.flags ++
    [("photo_c", .int 2 ephoto.photoC), ("photo", .ptr .array true), ("caption", string ephoto.caption)]
  have hextent : extentAll 0 front = 232 := by
    simp [front, extentAll_append, extent_headerMembers, TgevHeader.dates, TgevHeader.flags, extentAll, extent, string,
      int64, bool8, alignUp]
  have hmembers : ephoto.members = front ++
      ("caption_entity_c", .int 2 ephoto.captionEntityC) ::
      ("caption_entities", .ptr .array (ephoto.captionEntityC != 0)) :: [replyToMember ephoto.replyTo] := by
    simp [TgevPhoto.members, front]
  have hbytes : BytesAt addr 0 ephoto.members 232 (toBytes 2 ephoto.captionEntityC ++ pad 234 8) := by
    rw [hmembers]
    apply BytesAt.later front
    rw [hextent]
    exact bytesAt_int_ptr "caption_entity_c" "caption_entities" 2 _ _ _ rfl
  rw [hbytes.loadPtr_eq (by simp [alignUp]), pad, ofBytes_append_zeros, ofBytes_toBytes]
  rfl

lemma loadPtr_sticker (estk : TgevSticker Tgev) :
    loadPtr addr estk.members 232 =
      (if estk.sticker.thumb.fileUniqueId.isSome then addr .string 232 else 0) % 2 ^ 64 := by
  let istk := estk.sticker
  let front : List Member :=
    [("width", .int 2 istk.width), ("height", .int 2 istk.height), ("emoji", .chars 6 istk.emoji),
     ("set_name", string istk.setName)]
  let fileFront : List Member := [("file_name", string istk.thumb.fileName), ("file_id", string istk.thumb.fileId)]
  have hbytes : BytesAt addr 0 estk.members 232
      (toBytes 8 (if estk.sticker.thumb.fileUniqueId.isSome then addr .string 232 else 0)) := by
    simp only [TgevSticker.members, List.append_assoc]
    apply BytesAt.later estk.header.members
    rw [extent_headerMembers]
    apply BytesAt.inStruct "sticker" (by simp [TgeviSticker.members, TgeviFile.members, alignAll, align, alignUp, string, bool8])
    apply BytesAt.later front
    have hfront : extentAll (0 + 192) front = 24 := by simp [front, extentAll, extent, alignUp, string]
    rw [hfront]
    apply BytesAt.inStruct "thumb" (by simp [TgeviFile.members, alignAll, align, alignUp, string])
    apply BytesAt.later fileFront
    have hfile : extentAll (0 + 192 + 24) fileFront = 16 := by simp [fileFront, extentAll, extent, alignUp, string]
    rw [hfile]
    exact bytesAt_ptr "file_unique_id" PtrKind.string _ rfl
  rw [hbytes.loadPtr_eq (length_toBytes 8 _), ofBytes_toBytes]
  rfl

lemma loadPtr_gif (egif : TgevGif Tgev) :
    loadPtr addr egif.members 232 =
      (if egif.animation.fileUniqueId.isSome then addr .string 232 else 0) % 2 ^ 64 := by
  let imdia := egif.animation
  let front : List Member :=
    [("file_id", string imdia.fileId), ("file_name", string imdia.fileName), ("mime_type", string imdia.mimeType),
     ("title", string imdia.title), ("performer", string imdia.performer)]
  have hbytes : BytesAt addr 0 egif.members 232
      (toBytes 8 (if egif.animation.fileUniqueId.isSome then addr .string 232 else 0)) := by
    simp only [TgevGif.members, List.append_assoc]
    apply BytesAt.later egif.header.members
    rw [extent_headerMembers]
    apply BytesAt.inStruct "animation" (by simp [TgeviMedia.members, TgeviFile.members, alignAll, align, alignUp, string])
    apply BytesAt.later front
    have hfront : extentAll (0 + 192) front = 40 := by simp [front, extentAll, extent, alignUp, string]
    rw [hfront]
    exact bytesAt_ptr "file_unique_id" PtrKind.string _ rfl
  rw [hbytes.loadPtr_eq (length_toBytes 8 _), ofBytes_toBytes]
  rfl

/-! ### What is stored in `reply_to` -/

lemma stored_photo (ephoto : TgevPhoto Tgev) (hreply : ephoto.replyTo = none) :
    loadPtr addr ephoto.members (offsetOf ephoto.members "reply_to") = 0 := by
  let front := ephoto.members.dropLast
  have hmembers : ephoto.members = front ++ [replyToMember ephoto.replyTo] := by
    simp [front, TgevPhoto.members]
  have hnames : ∀ m ∈ front, m.1 ≠ "reply_to" := by
    simp [front, TgevPhoto.members, TgevHeader.members, TgevHeader.dates, TgevHeader.flags]
  rw [loadPtr_offsetOf "reply_to" front .event ephoto.replyTo.isSome hnames hmembers, hreply]
  rfl

lemma stored_gif (egif : TgevGif Tgev) (hreply : egif.replyTo = none) :
    loadPtr addr egif.members (offsetOf egif.members "reply_to") = 0 := by
  let front := egif.members.dropLast
  have hmembers : egif.members = front ++ [replyToMember egif.replyTo] := by
    simp [front, TgevGif.members, TgevHeader.members, TgevHeader.dates, TgevHeader.flags]
  have hnames : ∀ m ∈ front, m.1 ≠ "reply_to" := by
    simp [front, TgevGif.members, TgevHeader.members, TgevHeader.dates, TgevHeader.flags]
  rw [loadPtr_offsetOf "reply_to" front .event egif.replyTo.isSome hnames hmembers, hreply]
  rfl

lemma stored_sticker (estk : TgevSticker Tgev) :
    ∃ off, loadPtr addr estk.members (offsetOf estk.members "reply_to") =
      (if estk.replyTo.isSome then addr .event off else 0) % 2 ^ 64 := by
  let front := estk.members.dropLast
  have hmembers : estk.members = front ++ [replyToMember estk.replyTo] := by
    simp [front, TgevSticker.members, TgevHeader.members, TgevHeader.dates, TgevHeader.flags]
  have hnames : ∀ m ∈ front, m.1 ≠ "reply_to" := by
    simp [front, TgevSticker.members, TgevHeader.members, TgevHeader.dates, TgevHeader.flags]
  exact ⟨_, loadPtr_offsetOf "reply_to" front .event estk.replyTo.isSome hnames hmembers⟩

/-! ### Events and the getter -/

lemma getter_text {evt : Tgev} {etext : TgevText Tgev} (hmsg : evt.msg = .text etext) :
    tgeGetReplyTo addr evt = storedReplyTo addr evt := by
  simp only [tgeGetReplyTo, storedReplyTo, hmsg, TgevMsg.members, offsetofTextReplyTo_eq, offsetOf_text]

lemma getter_photo {evt : Tgev} {ephoto : TgevPhoto Tgev} (hmsg : evt.msg = .photo ephoto) (hreply : ephoto.replyTo = none) :
    tgeGetReplyTo addr evt = storedReplyTo addr evt ↔ ephoto.captionEntityC % 2 ^ 16 = 0 := by
  simp only [tgeGetReplyTo, storedReplyTo, hmsg, TgevMsg.members, offsetofTextReplyTo_eq, loadPtr_photo,
    stored_photo addr ephoto hreply]

lemma getter_gif (places : Addresses) {evt : Tgev} {egif : TgevGif Tgev} (hmsg : evt.msg = .gif egif)
    (hreply : egif.replyTo = none) :
    tgeGetReplyTo places.addr evt = storedReplyTo places.addr evt ↔ egif.animation.fileUniqueId = none := by
  simp only [tgeGetReplyTo, storedReplyTo, hmsg, TgevMsg.members, offsetofTextReplyTo_eq, loadPtr_gif,
    stored_gif places.addr egif hreply]
  have hstring := Nat.mod_eq_of_lt (places.lt .string 232)
  cases egif.animation.fileUniqueId with
  | none => simp
  | some id =>
    simp only [Option.isSome_some, if_true, hstring, reduceCtorEq, iff_false]
    exact places.ne_null .string 232

lemma getter_sticker (places : Addresses) {evt : Tgev} {estk : TgevSticker Tgev} (hmsg : evt.msg = .sticker estk) :
    tgeGetReplyTo places.addr evt = storedReplyTo places.addr evt ↔
      estk.sticker.thumb.fileUniqueId = none ∧ estk.replyTo = none := by
  obtain ⟨off, hstored⟩ := stored_sticker places.addr estk
  simp only [tgeGetReplyTo, storedReplyTo, hmsg, TgevMsg.members, offsetofTextReplyTo_eq, loadPtr_sticker, hstored]
  have hstring := Nat.mod_eq_of_lt (places.lt .string 232)
  have hevent := Nat.mod_eq_of_lt (places.lt .event off)
  have hapart := places.apart .string .event 232 off (by decide)
  cases estk.sticker.thumb.fileUniqueId <;> cases estk.replyTo <;>
    simp only [Option.isSome_some, Option.isSome_none, Bool.false_eq_true, if_true, if_false, Nat.zero_mod, hstring,
      hevent] <;>
    simp [hapart, places.ne_null, (places.ne_null _ _).symm]

/-! ### The condition on the JSON -/

/-- A reply is decoded to an event where it is there, not null, and acceptable. -/
def HasReply (jmsg : Json) : Prop :=
  ∃ reply, jmsg.getEx "reply_to_message" = some reply ∧ reply ≠ .null ∧ Acceptable reply

/-- The member that lies where the getter reads is zero, and so is the reply. -/
def GetterAgrees (jmsg : Json) : Prop :=
  match messageKind jmsg with
  | .text _ => True
  | .photo _ => Has jmsg "caption" → (elemsAt jmsg "caption_entities").length % 2 ^ 16 = 0
  | .sticker jstk =>
    (∃ thumb, jstk.getEx "thumb" = some thumb ∧ thumb.getEx "file_unique_id" = some .null) ∧ ¬HasReply jmsg
  | .gif animation => animation.getEx "file_unique_id" = some .null
  | .unknown => True

lemma optString_eq_none {jso : Json} {key : String} (h : Has jso key) :
    jso.optString key = none ↔ jso.getEx key = some .null := by
  obtain ⟨res, hres⟩ := Option.isSome_iff_exists.mp h
  simp [Json.optString, hres, Json.getString_eq_none]

lemma replyOf_eq_none {jmsg : Json} {reply : Option Tgev} (h : replyOf jmsg = .ok reply) :
    reply = none ↔ ¬HasReply jmsg := by
  unfold replyOf at h
  unfold HasReply
  cases hreply : jmsg.getEx "reply_to_message" with
  | none => simp_all
  | some res =>
    rw [hreply] at h
    by_cases hnull : res = .null
    · simp_all [Json.isNull]
    · have hne : res.isNull = false := by
        rw [← Bool.not_eq_true, isNull_iff]
        exact hnull
      cases hcall : call (parseMessageJsonObj res) {} with
      | error e => simp [hne, hcall, parseRepliedMsg] at h
      | ok decoded =>
        obtain ⟨code, evt⟩ := decoded
        have hcode := code_eq_zero_iff (parseMessageJsonObj_eq res ▸ hcall)
        simp only [hne, hcall, parseRepliedMsg, Bool.false_eq_true, if_false] at h
        by_cases hzero : code = 0
        · rw [if_neg (not_not.mpr hzero), Except.ok.injEq] at h
          simp [← h, hnull, hcode.mp hzero]
        · rw [if_pos hzero, Except.ok.injEq] at h
          simp [← h, mt hcode.mpr hzero]

lemma captionEntityC_eq_zero (jmsg : Json) :
    (captionOf jmsg).2.1 % 2 ^ 16 = 0 ↔
      (Has jmsg "caption" → (elemsAt jmsg "caption_entities").length % 2 ^ 16 = 0) := by
  unfold captionOf
  cases hcaption : jmsg.getEx "caption" with
  | none => simp [not_has_of_none hcaption]
  | some res => simp [has_of_some hcaption, entitiesOf, uint16]

theorem reply_getter_correct_iff (places : Addresses) (jmsg : Json) (evt : Tgev)
    (haccept : call (parseMessageJsonObj jmsg) {} = .ok (0, evt)) :
    tgeGetReplyTo places.addr evt = storedReplyTo places.addr evt ↔ GetterAgrees jmsg := by
  rw [parseMessageJsonObj_eq] at haccept
  have hdecodes := decodesTo_of_accepted haccept
  unfold GetterAgrees
  generalize hmsg : evt.msg = msg at hdecodes
  cases hdecodes with
  | text text reply hkind => simp [hkind, getter_text places.addr hmsg]
  | photo photos elems hkind =>
    rw [hkind, getter_photo places.addr hmsg rfl]
    exact captionEntityC_eq_zero jmsg
  | sticker jstk reply hkind hemoji hsticker hreply =>
    rw [hkind, getter_sticker places hmsg, replyOf_eq_none hreply]
    obtain ⟨thumb, hthumb, hfile⟩ := hsticker.2.2.2.2.2.2.2.2
    have hunique : (stickerOf jstk).thumb.fileUniqueId = thumb.optString "file_unique_id" := by
      rw [stickerOf, final_parseTgeviSticker hemoji hsticker, stickerAt, field_of_some hthumb, optString_eq]
      rfl
    rw [hunique, optString_eq_none hfile.2.1]
    simp [hthumb]
  | gif animation document hkind hmedia =>
    rw [hkind, getter_gif places hmsg rfl]
    have hunique : (gifOf jmsg animation document).animation.fileUniqueId = animation.optString "file_unique_id" := by
      rw [gifOf, final_parseTgeviMedia hmedia, optString_eq]
      rfl
    rw [hunique]
    exact optString_eq_none hmedia.2.2.2.1
  | unknown eukw hkind => simp [hkind, tgeGetReplyTo, storedReplyTo, hmsg]

/-! A photo with a caption, with and without an entity in it. -/

def examplePlaces : Addresses where
  addr
    | .string, _ => 0x10000
    | .array, _ => 0x20000
    | .event, _ => 0x30000
  ne_null kind off := by cases kind <;> simp
  lt kind off := by cases kind <;> simp
  apart kind kind' off off' hne := by cases kind <;> cases kind' <;> simp_all

def photoMessage (entities : List Json) : Json :=
  .object
    [(ascii "message_id", .int 7),
     (ascii "from", .object [(ascii "id", .int 1), (ascii "first_name", .string (ascii "a"))]),
     (ascii "chat", .object
       [(ascii "id", .int (-5)), (ascii "type", .string (ascii "supergroup")), (ascii "title", .string (ascii "t"))]),
     (ascii "date", .int 9),
     (ascii "photo", .array []),
     (ascii "caption", .string (ascii "c")),
     (ascii "caption_entities", .array entities)]

def photoEvent (captionEntityC : ℕ) (captionEntities : List TgeviEntity) : Tgev :=
  { msg := .photo
      { header :=
          { msgId := 7
            sender := { id := 1, firstName := some (ascii "a") }
            senderParsed := true
            chat := { id := -5, type := some .supergroup, title := some (ascii "t") }
            date := 9 }
        caption := some (ascii "c")
        captionEntityC
        captionEntities } }

lemma photoMessage_plain : call (parseMessageJsonObj (photoMessage [])) {} = .ok (0, photoEvent 0 []) := by
  rw [parseMessageJsonObj_eq]
  rfl

lemma photoMessage_entity : call (parseMessageJsonObj (photoMessage [.object []])) {} = .ok (0, photoEvent 1 [{}]) := by
  rw [parseMessageJsonObj_eq]
  rfl

theorem reply_getter_correct_plainPhoto :
    call (parseMessageJsonObj (photoMessage [])) {} = .ok (0, photoEvent 0 []) ∧
      (tgeGetReplyTo examplePlaces.addr (photoEvent 0 []) = storedReplyTo examplePlaces.addr (photoEvent 0 []) ↔
        GetterAgrees (photoMessage [])) :=
  ⟨photoMessage_plain, reply_getter_correct_iff examplePlaces _ _ photoMessage_plain⟩

/-- The count of the caption entities is taken for a pointer. -/
theorem photo_getter_reads_count :
    call (parseMessageJsonObj (photoMessage [.object []])) {} = .ok (0, photoEvent 1 [{}]) ∧
      tgeGetReplyTo examplePlaces.addr (photoEvent 1 [{}]) = 1 ∧
      storedReplyTo examplePlaces.addr (photoEvent 1 [{}]) = 0 := by
  refine ⟨photoMessage_entity, ?_, ?_⟩
  · rw [tgeGetReplyTo, photoEvent, offsetofTextReplyTo_eq]
    exact loadPtr_photo _ _
  · exact stored_photo _ _ rfl

end GNUWeebBot.Proofs
