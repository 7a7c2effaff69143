import GNUWeebBot.Proofs.DecoderSafety
import GNUWeebBot.Proofs.PartPaths
import Mathlib.Data.List.Forall2

/-!
# Where the fields of an event come from

Every message on the chain of replies has its fields from the paths they are named after, exactly if
the gifs among them leave no difference.
-/

namespace GNUWeebBot.Proofs

open Fill

lemma headerOf_eq {jmsg : Json} (hheader : HeaderOk jmsg) : headerOf jmsg = headerAt jmsg :=
  ((parseHeader_checks jmsg).wp_iff.mp (parseHeader_path jmsg)).1 hheader

lemma headerPart_headerOf {jmsg : Json} (hheader : ¬HeaderOk jmsg) : HeaderPart (headerOf jmsg) (headerAt jmsg) :=
  ((parseHeader_checks jmsg).wp_iff.mp (parseHeader_path jmsg)).2 hheader

/-! ### Arrays -/

def elements (jarray : Json) : List Json := jarray.array?.getD []

/-- A file of which all mandatory keys are there is read as a whole. -/
structure FileFrom (jfile : Json) (file : TgeviFile) : Prop where
  whole : FileOk jfile → file = fileAt jfile
  part : FilePart file (fileAt jfile)

structure EntityFrom (entity : Json) (e : TgeviEntity) : Prop where
  whole : Has entity "offset" → Has entity "length" → e = entityAt entity
  part : EntityPart e (entityAt entity)

/-- The elements in their order, as many as the count says. -/
structure ArrayFrom {α : Type} (From : Json → α → Prop) (jarray : Json) (count : ℕ) (stored : List α) : Prop where
  counted : count = uint16 (elements jarray).length
  elems : List.Forall₂ From ((elements jarray).take count) stored

lemma elemsAt_eq (jmsg : Json) (key : String) : elemsAt jmsg key = elements (jmsg.field key) := by
  unfold elemsAt elements Json.field
  cases jmsg.getEx key <;> rfl

lemma arrayFrom_map {α : Type} {From : Json → α → Prop} {f : Json → α} (hf : ∀ j, From j (f j)) (jarray : Json) :
    ArrayFrom From jarray (uint16 (elements jarray).length)
      ((List.range (uint16 (elements jarray).length)).map (fun i => f ((elements jarray).getD i .null))) where
  counted := rfl
  elems := by
    have hle : uint16 (elements jarray).length ≤ (elements jarray).length := Nat.mod_le _ _
    have hmap : (List.range (uint16 (elements jarray).length)).map (fun i => f ((elements jarray).getD i .null)) =
        ((elements jarray).take (uint16 (elements jarray).length)).map f := by
      apply List.ext_getElem
      · simp [hle]
      · intro i hi hi'
        simp only [List.length_map, List.length_range] at hi
        have hlt : i < (elements jarray).length := by omega
        simp [hlt]
    rw [hmap, List.forall₂_map_right_iff, List.forall₂_same]
    exact fun j _ => hf j

lemma entityFrom_parse (entity : Json) : EntityFrom entity (parseTgeviEntity entity) := by
  unfold parseTgeviEntity
  cases hoffset : entity.getEx "offset" with
  | none => exact ⟨fun hhas => absurd hhas (not_has_of_none hoffset), by simp [entityPart_iff]⟩
  | some offset =>
    cases hlength : entity.getEx "length" with
    | none =>
      exact ⟨fun _ hhas => absurd hhas (not_has_of_none hlength), by simp [entityPart_iff, entityAt, field_of_some hoffset]⟩
    | some length =>
      have hwhole : (⟨uint16 offset.getUint64, uint16 length.getUint64, entity.optString "type"⟩ : TgeviEntity) = entityAt entity := by
        simp [entityAt, field_of_some hoffset, field_of_some hlength, optString_eq]
      exact ⟨fun _ _ => hwhole, by simp [← hwhole, entityPart_iff]⟩

lemma entitiesOf_from (jmsg : Json) (key : String) :
    ArrayFrom EntityFrom (jmsg.field key) (entitiesOf jmsg key).1 (entitiesOf jmsg key).2 := by
  have hmap := arrayFrom_map entityFrom_parse (jmsg.field key)
  rw [← elemsAt_eq] at hmap
  exact hmap

lemma photosOf_from {jphotos : Json} {elems : List Json} (harray : jphotos.array? = some elems) :
    ArrayFrom FileFrom jphotos (uint16 elems.length) (photosOf elems) := by
  have helems : elements jphotos = elems := by rw [elements, harray, Option.getD_some]
  have hmap := arrayFrom_map (fun jfile => FileFrom.mk final_parseTgeviFile (filePart_final jfile)) jphotos
  rw [helems] at hmap
  exact hmap

/-- Without a caption there are no entities of it. -/
structure CaptionFrom (jmsg : Json) (caption : CharPtr) (entityC : ℕ) (entities : List TgeviEntity) : Prop where
  text : caption = (jmsg.field "caption").getString
  decoded : Has jmsg "caption" → ArrayFrom EntityFrom (jmsg.field "caption_entities") entityC entities
  without : ¬Has jmsg "caption" → entityC = 0 ∧ entities = []

lemma captionOf_from (jmsg : Json) : CaptionFrom jmsg (captionOf jmsg).1 (captionOf jmsg).2.1 (captionOf jmsg).2.2 := by
  unfold captionOf
  cases hcaption : jmsg.getEx "caption" with
  | none => exact ⟨by rw [field_of_none hcaption]; rfl, fun hhas => absurd hhas (not_has_of_none hcaption), fun _ => ⟨rfl, rfl⟩⟩
  | some res =>
    exact ⟨by rw [field_of_some hcaption], fun _ => entitiesOf_from jmsg "caption_entities",
      fun hnot => absurd (has_of_some hcaption) hnot⟩

/-! ### Events -/

/-- The fields of one message, apart from its reply. A document and a thumbnail have their mandatory keys. -/
def OwnFieldsRight (jmsg : Json) : TgevMsg Tgev → Prop
  | .zeroed => False
  | .text etext =>
    etext.header = headerAt jmsg ∧ etext.text = (jmsg.field "text").getString ∧
      ArrayFrom EntityFrom (jmsg.field "entities") etext.entityC etext.entities
  | .photo ephoto =>
    ephoto.header = headerAt jmsg ∧ ArrayFrom FileFrom (jmsg.field "photo") ephoto.photoC ephoto.photo ∧
      CaptionFrom jmsg ephoto.caption ephoto.captionEntityC ephoto.captionEntities
  | .sticker estk =>
    estk.header = headerAt jmsg ∧ estk.sticker = stickerAt (jmsg.field "sticker") ∧
      FileOk ((jmsg.field "sticker").field "thumb")
  | .gif egif =>
    egif.header = headerAt jmsg ∧ egif.animation = mediaAt (jmsg.field "animation") ∧
      (Has (jmsg.field "animation") "thumb" → FileOk ((jmsg.field "animation").field "thumb")) ∧
      egif.document = fileAt (jmsg.field "document") ∧ FileOk (jmsg.field "document") ∧
      CaptionFrom jmsg egif.caption egif.captionEntityC egif.captionEntities
  | .unknown eukw =>
    HeaderPart eukw.header (headerAt jmsg) ∧
      (HeaderOk jmsg → eukw.header = headerAt jmsg ∧
        ArrayFrom EntityFrom (jmsg.field "entities") eukw.entityC eukw.entities) ∧
      (¬HeaderOk jmsg → eukw.entityC = 0 ∧ eukw.entities = [])

/-- The fields of the event and of the replies decoded with it. -/
@[mk_iff] inductive FieldsRight : Json → Tgev → Prop
  | mk (jmsg : Json) (evt : Tgev) (hown : OwnFieldsRight jmsg evt.msg)
      (hreply : ∀ reply, evt.replyTo = some reply → FieldsRight (jmsg.field "reply_to_message") reply) : FieldsRight jmsg evt

/-- The document has its mandatory keys, and so has a thumbnail of the animation, which has the same
values at them as the animation itself. -/
def GifSound (jmsg : Json) : Prop :=
  match messageKind jmsg with
  | .gif animation =>
    FileOk (jmsg.field "document") ∧
      ∀ thumb, animation.getEx "thumb" = some thumb → FileOk thumb ∧ fileAt thumb = fileAt animation
  | _ => True

section Events

variable {jmsg : Json} {evt evt' : Tgev}

lemma mediaTaken_eq_iff (animation : Json) :
    mediaTaken animation = mediaAt animation ↔
      ∀ thumb, animation.getEx "thumb" = some thumb → fileAt thumb = fileAt animation := by
  have hthumb : mediaTaken animation = mediaAt animation ↔
      (if Has animation "thumb" then fileAt animation else {}) = fileAt (animation.field "thumb") := by
    simp [mediaTaken, mediaAt]
  rw [hthumb]
  cases h : animation.getEx "thumb" with
  | none => simp [not_has_of_none h, field_of_none h, fileAt_null]
  | some thumb => simp [has_of_some h, field_of_some h, eq_comm]

lemma ownFieldsRight_gif {animation document : Json} (hmedia : MediaOk animation) (hheader : HeaderOk jmsg)
    (hanimation : jmsg.getEx "animation" = some animation) (hdocument : jmsg.getEx "document" = some document) :
    OwnFieldsRight jmsg (.gif (gifOf jmsg animation document)) ↔
      FileOk (jmsg.field "document") ∧
        ∀ thumb, animation.getEx "thumb" = some thumb → FileOk thumb ∧ fileAt thumb = fileAt animation := by
  simp only [OwnFieldsRight, gifOf, headerOf_eq hheader, field_of_some hanimation, field_of_some hdocument,
    final_parseTgeviMedia hmedia, mediaTaken_eq_iff, true_and]
  constructor
  · rintro ⟨hsame, hthumb, -, hfile, -⟩
    refine ⟨hfile, fun thumb hsome => ⟨?_, hsame thumb hsome⟩⟩
    rw [← field_of_some hsome]
    exact hthumb (has_of_some hsome)
  · rintro ⟨hfile, hthumbs⟩
    refine ⟨fun thumb hsome => (hthumbs thumb hsome).2, fun hhas => ?_, final_parseTgeviFile hfile, hfile, captionOf_from jmsg⟩
    obtain ⟨thumb, hsome⟩ := Option.isSome_iff_exists.mp hhas
    rw [field_of_some hsome]
    exact (hthumbs thumb hsome).1

/-- One message. -/
lemma ownFieldsRight_iff {replyTo : Except Fault (Option Tgev)} (h : call (parseMessageWith jmsg replyTo) evt = .ok (0, evt')) :
    OwnFieldsRight jmsg evt'.msg ↔ GifSound jmsg := by
  unfold GifSound
  rcases messageKind_cases jmsg with ⟨text, htext, hkind⟩ | ⟨photos, htext, hphoto, hkind⟩ | ⟨jstk, htext, hphoto, hsticker, hkind⟩ |
    ⟨animation, htext, hphoto, hsticker, hgif, hkind⟩ | ⟨htext, hphoto, hsticker, hgif, hkind⟩
  · obtain ⟨hheader, -, reply, -, rfl⟩ := accepted_text h htext
    simp [hkind, OwnFieldsRight, textOf, headerOf_eq hheader, field_of_some htext, entitiesOf_from]
  · obtain ⟨hheader, -, elems, harray, rfl⟩ := accepted_photo h htext hphoto
    simp [hkind, OwnFieldsRight, photoOf, headerOf_eq hheader, field_of_some hphoto, photosOf_from harray, captionOf_from]
  · obtain ⟨hemoji, hstk, hheader, reply, -, rfl⟩ := accepted_sticker h htext hphoto hsticker
    obtain ⟨thumb, hthumb, hfile⟩ := hstk.2.2.2.2.2.2.2.2
    simp [hkind, OwnFieldsRight, stickerOf, headerOf_eq hheader, field_of_some hsticker, final_parseTgeviSticker hemoji hstk,
      field_of_some hthumb, hfile]
  · obtain ⟨hmedia, hheader, -, document, hdocument, rfl⟩ := accepted_gif h htext hphoto hsticker hgif
    rw [hkind]
    exact ownFieldsRight_gif hmedia hheader hgif hdocument
  · rcases accepted_unknown h htext hphoto hsticker hgif with ⟨hheader, rfl⟩ | ⟨hheader, -, reply, -, rfl⟩
    · simp [hkind, OwnFieldsRight, hheader, headerPart_headerOf hheader]
    · simp [hkind, OwnFieldsRight, unknownOf, hheader, headerOf_eq hheader, HeaderPart.whole, entitiesOf_from]

/-- The reply that an accepted message has stored. -/
lemma replyTo_of_reaches {replyTo : Except Fault (Option Tgev)} (h : call (parseMessageWith jmsg replyTo) evt = .ok (0, evt')) :
    (ReachesReply jmsg → replyTo = .ok evt'.replyTo) ∧ (¬ReachesReply jmsg → evt'.replyTo = none) := by
  unfold ReachesReply
  rcases messageKind_cases jmsg with ⟨text, htext, hkind⟩ | ⟨photos, htext, hphoto, hkind⟩ | ⟨jstk, htext, hphoto, hsticker, hkind⟩ |
    ⟨animation, htext, hphoto, hsticker, hgif, hkind⟩ | ⟨htext, hphoto, hsticker, hgif, hkind⟩
  · obtain ⟨hheader, -, reply, hreply, rfl⟩ := accepted_text h htext
    rw [hkind]
    exact ⟨fun _ => hreply, fun hnot => absurd hheader hnot⟩
  · obtain ⟨-, -, elems, -, rfl⟩ := accepted_photo h htext hphoto
    rw [hkind]
    exact ⟨False.elim, fun _ => rfl⟩
  · obtain ⟨-, hstk, hheader, reply, hreply, rfl⟩ := accepted_sticker h htext hphoto hsticker
    rw [hkind]
    exact ⟨fun _ => hreply, fun hnot => absurd ⟨hstk, hheader⟩ hnot⟩
  · obtain ⟨-, -, -, document, -, rfl⟩ := accepted_gif h htext hphoto hsticker hgif
    rw [hkind]
    exact ⟨False.elim, fun _ => rfl⟩
  · rw [hkind]
    rcases accepted_unknown h htext hphoto hsticker hgif with ⟨hheader, rfl⟩ | ⟨hheader, -, reply, hreply, rfl⟩
    · exact ⟨fun hreaches => absurd hreaches hheader, fun _ => rfl⟩
    · exact ⟨fun _ => hreply, fun hnot => absurd hheader hnot⟩

end Events

/-! ### Messages with their replies -/

/-- The reply is decoded, and it is accepted. -/
def StoresReply (jmsg reply : Json) : Prop := DecodesReply jmsg reply ∧ Acceptable reply

lemma replyOf_of_not_null {jmsg res : Json} (hreply : jmsg.getEx "reply_to_message" = some res) (hne : res ≠ .null) :
    replyOf jmsg = parseRepliedMsg (call (parseMessageJsonObj res) {}) := by
  have hnull : ¬res.isNull = true := mt isNull_iff.mp hne
  unfold replyOf
  rw [hreply]
  exact if_neg hnull

/-- A reply of an event is an accepted message of its own. -/
lemma storesReply_of_replyTo {jmsg : Json} {evt evt' reply : Tgev} (h : call (parseMessageJsonObj jmsg) evt = .ok (0, evt'))
    (hreply : evt'.replyTo = some reply) :
    ∃ res decoded, StoresReply jmsg res ∧ call (parseMessageJsonObj res) {} = .ok (0, decoded) ∧
      reply = { decoded with isRepliedNode := true } := by
  rw [parseMessageJsonObj_eq] at h
  have hreaches : ReachesReply jmsg := by
    by_contra hnot
    rw [(replyTo_of_reaches h).2 hnot] at hreply
    cases hreply
  have hof := (replyTo_of_reaches h).1 hreaches
  rw [hreply] at hof
  cases hkey : jmsg.getEx "reply_to_message" with
  | none => simp [replyOf, hkey] at hof
  | some res =>
    by_cases hnull : res = .null
    · simp [replyOf, hkey, hnull, Json.isNull] at hof
    · rw [replyOf_of_not_null hkey hnull] at hof
      cases hcall : call (parseMessageJsonObj res) {} with
      | error e => simp [hcall, parseRepliedMsg] at hof
      | ok result =>
        obtain ⟨code, decoded⟩ := result
        by_cases hcode : code = 0
        · subst hcode
          have haccept : Acceptable res := (code_eq_zero_iff (parseMessageJsonObj_eq res ▸ hcall)).mp rfl
          simp only [hcall, parseRepliedMsg, ne_eq, not_true_eq_false, if_false, Except.ok.injEq, Option.some.injEq] at hof
          exact ⟨res, decoded, ⟨⟨hreaches, hkey, hnull⟩, haccept⟩, hcall, hof.symm⟩
        · simp [hcall, parseRepliedMsg, hcode] at hof

lemma replyTo_of_storesReply {jmsg res : Json} {evt evt' : Tgev} (h : call (parseMessageJsonObj jmsg) evt = .ok (0, evt'))
    (hstores : StoresReply jmsg res) :
    ∃ decoded, call (parseMessageJsonObj res) {} = .ok (0, decoded) ∧ evt'.replyTo = some { decoded with isRepliedNode := true } := by
  obtain ⟨⟨hreaches, hkey, hnull⟩, haccept⟩ := hstores
  rw [parseMessageJsonObj_eq] at h
  have hof := (replyTo_of_reaches h).1 hreaches
  rw [replyOf_of_not_null hkey hnull] at hof
  cases hcall : call (parseMessageJsonObj res) {} with
  | error e => simp [hcall, parseRepliedMsg] at hof
  | ok result =>
    obtain ⟨code, decoded⟩ := result
    have hcode : code = 0 := (code_eq_zero_iff (parseMessageJsonObj_eq res ▸ hcall)).mpr haccept
    subst hcode
    simp only [hcall, parseRepliedMsg, ne_eq, not_true_eq_false, if_false, Except.ok.injEq] at hof
    exact ⟨decoded, rfl, hof.symm⟩

lemma fieldsRight_replied (jmsg : Json) (evt : Tgev) :
    FieldsRight jmsg { evt with isRepliedNode := true } ↔ FieldsRight jmsg evt := by
  rw [fieldsRight_iff, fieldsRight_iff]
  exact Iff.rfl

/-- A message with the replies on its chain. -/
lemma fieldsRight_iff_gifSound (jmsg : Json) {evt evt' : Tgev} (h : call (parseMessageJsonObj jmsg) evt = .ok (0, evt')) :
    FieldsRight jmsg evt' ↔ ∀ reply, Relation.ReflTransGen StoresReply jmsg reply → GifSound reply := by
  have hown := ownFieldsRight_iff (parseMessageJsonObj_eq jmsg ▸ h)
  rw [fieldsRight_iff, hown]
  constructor
  · rintro ⟨hself, hreplies⟩ reply hchain
    rcases Relation.ReflTransGen.cases_head hchain with rfl | ⟨res, hstores, hrest⟩
    · exact hself
    · obtain ⟨decoded, hcall, hreply⟩ := replyTo_of_storesReply h hstores
      have hsize : sizeOf res < sizeOf jmsg := Json.sizeOf_getEx hstores.1.2.1
      have hright := hreplies _ hreply
      rw [field_of_some hstores.1.2.1, fieldsRight_replied] at hright
      exact (fieldsRight_iff_gifSound res hcall).mp hright reply hrest
  · intro hall
    refine ⟨hall jmsg .refl, fun reply hreply => ?_⟩
    obtain ⟨res, decoded, hstores, hcall, rfl⟩ := storesReply_of_replyTo h hreply
    have hsize : sizeOf res < sizeOf jmsg := Json.sizeOf_getEx hstores.1.2.1
    rw [field_of_some hstores.1.2.1, fieldsRight_replied]
    exact (fieldsRight_iff_gifSound res hcall).mpr (fun last hrest => hall last (.head hstores hrest))
termination_by sizeOf jmsg

/-! ### Updates -/

/-- The JSON that the decoder works on, null where the tokener fails. -/
def updateOf (tokener : List UInt8 → Option Json) (jsonStr : List UInt8) : Json := (tokener (cString jsonStr ++ [0])).getD .null

lemma json_eq_updateOf (tokener : List UInt8 → Option Json) (jsonStr : List UInt8) :
    (tgEventJsonParse tokener (cString jsonStr ++ [0])).2 = updateOf tokener jsonStr := by
  unfold tgEventJsonParse updateOf
  cases tokener (cString jsonStr ++ [0]) <;> rfl

/-- How far the decoder gets in an update. -/
lemma load_cases {tokener : List UInt8 → Option Json} {jsonStr : List UInt8} {code : ℤ} {evt : Tgev}
    (hload : tgEventLoadStr tokener jsonStr = .ok (code, evt)) :
    ((updateOf tokener jsonStr).getEx "update_id" = none ∧ code = -EINVAL) ∨
      (∃ id, (updateOf tokener jsonStr).getEx "update_id" = some id ∧ (updateOf tokener jsonStr).getEx "message" = none ∧ code = -EINVAL) ∨
      ∃ id jmsg, (updateOf tokener jsonStr).getEx "update_id" = some id ∧ (updateOf tokener jsonStr).getEx "message" = some jmsg ∧
        call (parseMessageJsonObj jmsg) { updateId := id.getUint64 } = .ok (code, evt) := by
  have hwp := (call_eq_ok_iff _).mp hload
  simp only [internalTgEventLoadStr, json_eq_updateOf, not_unlikely_neg, if_false, parseUpdateId, parseMessage] at hwp
  cases hid : (updateOf tokener jsonStr).getEx "update_id" with
  | none =>
    simp only [hid, wp_bind, wp_need_none] at hwp
    exact .inl ⟨rfl, hwp.1.symm⟩
  | some id =>
    cases hmsg : (updateOf tokener jsonStr).getEx "message" with
    | none =>
      simp only [hid, hmsg, wp_bind, wp_need_some, wp_modify, wp_need_none] at hwp
      exact .inr (.inl ⟨id, rfl, rfl, hwp.1.symm⟩)
    | some jmsg =>
      simp only [hid, hmsg, wp_bind, wp_need_some, wp_modify] at hwp
      exact .inr (.inr ⟨id, jmsg, rfl, rfl, (call_eq_ok_iff _).mpr hwp⟩)

/-- An accepted update has the keys that lead to its message. -/
lemma load_accepted {tokener : List UInt8 → Option Json} {jsonStr : List UInt8} {update : Json} {evt : Tgev}
    (htok : tokener (cString jsonStr ++ [0]) = some update) (hload : tgEventLoadStr tokener jsonStr = .ok (0, evt)) :
    ∃ id jmsg, update.getEx "update_id" = some id ∧ update.getEx "message" = some jmsg ∧
      call (parseMessageJsonObj jmsg) { updateId := id.getUint64 } = .ok (0, evt) := by
  have hupdate : updateOf tokener jsonStr = update := by rw [updateOf, htok, Option.getD_some]
  have hcases := load_cases hload
  rw [hupdate] at hcases
  rcases hcases with ⟨-, hcode⟩ | ⟨id, -, -, hcode⟩ | hdecoded
  · exact absurd hcode.symm einval_ne_zero
  · exact absurd hcode.symm einval_ne_zero
  · exact hdecoded

lemma load_message {tokener : List UInt8 → Option Json} {jsonStr : List UInt8} {update id jmsg : Json}
    (htok : tokener (cString jsonStr ++ [0]) = some update) (hid : update.getEx "update_id" = some id)
    (hmsg : update.getEx "message" = some jmsg) :
    tgEventLoadStr tokener jsonStr = call (parseMessageJsonObj jmsg) { updateId := id.getUint64 } := by
  unfold tgEventLoadStr internalTgEventLoadStr tgEventJsonParse
  rw [htok]
  simp only [not_unlikely_neg, if_false, parseUpdateId, parseMessage, hid, hmsg]
  rfl

/-- A tokener on the text of one update. -/
def textTokener (update : Json) (bytes : List UInt8) : Option Json := if bytes = update.toJsonString ++ [0] then some update else none

lemma textTokener_self (update : Json) (hstring : cString update.toJsonString = update.toJsonString) :
    textTokener update (cString update.toJsonString ++ [0]) = some update := by
  rw [hstring]
  exact if_pos rfl

def gifMessage (thumb : List (List UInt8 × Json)) : Json :=
  .object
    [(ascii "message_id", .int 7),
     (ascii "from", .object [(ascii "id", .int 1), (ascii "first_name", .string (ascii "a"))]),
     (ascii "chat", .object
       [(ascii "id", .int (-5)), (ascii "type", .string (ascii "supergroup")), (ascii "title", .string (ascii "t"))]),
     (ascii "date", .int 9),
     (ascii "animation", .object
       ([(ascii "file_name", .string (ascii "n")), (ascii "mime_type", .string (ascii "m")),
         (ascii "file_id", .string (ascii "i")), (ascii "file_unique_id", .string (ascii "u")),
         (ascii "file_size", .int 3)] ++ thumb)),
     (ascii "document", .object
       [(ascii "file_id", .string (ascii "d")), (ascii "file_unique_id", .string (ascii "v")), (ascii "file_size", .int 4)])]

def gifUpdate (thumb : List (List UInt8 × Json)) : Json := .object [(ascii "update_id", .int 2), (ascii "message", gifMessage thumb)]

def gifThumb : List (List UInt8 × Json) :=
  [(ascii "thumb", .object
    [(ascii "file_id", .string (ascii "x")), (ascii "file_unique_id", .string (ascii "y")), (ascii "file_size", .int 5)])]

def gifEvent (thumb : TgeviFile) : Tgev :=
  { updateId := 2
    msg := .gif
      { header :=
          { msgId := 7
            sender := { id := 1, firstName := some (ascii "a") }
            senderParsed := true
            chat := { id := -5, type := some .supergroup, title := some (ascii "t") }
            date := 9 }
        animation :=
          { fileName := some (ascii "n"), mimeType := some (ascii "m"), fileId := some (ascii "i"),
            fileUniqueId := some (ascii "u"), fileSize := 3, thumb }
        document := { fileId := some (ascii "d"), fileUniqueId := some (ascii "v"), fileSize := 4 } } }

/-- The animation as a file. -/
def animationFile : TgeviFile where
  fileName := some (ascii "n")
  mimeType := some (ascii "m")
  fileId := some (ascii "i")
  fileUniqueId := some (ascii "u")
  fileSize := 3

lemma load_gifUpdate {thumb : List (List UInt8 × Json)}
    (htok : textTokener (gifUpdate thumb) (cString (gifUpdate thumb).toJsonString ++ [0]) = some (gifUpdate thumb)) :
    tgEventLoadStr (textTokener (gifUpdate thumb)) (gifUpdate thumb).toJsonString =
      call (parseMessageWith (gifMessage thumb) (.ok none)) { updateId := 2 } := by
  have hreply : replyOf (gifMessage thumb) = .ok none := rfl
  rw [← hreply, ← parseMessageJsonObj_eq]
  exact load_message htok rfl rfl

end GNUWeebBot.Proofs
