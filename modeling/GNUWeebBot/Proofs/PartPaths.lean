import GNUWeebBot.Proofs.DecoderChecks

/-!
# Where the parts of a message come from

Each field by the path it is named after. A key that is missing reads as null, of which json-c makes
`NULL`, zero and false. Only the thumbnail of an animation has another source.
-/

namespace GNUWeebBot

/-- The value at a key. -/
def Json.field (jso : Json) (key : String) : Json := (jso.getEx key).getD .null

end GNUWeebBot

namespace GNUWeebBot.Proofs

open Fill

/-! ### The paths -/

instance (jso : Json) (key : String) : Decidable (Has jso key) := inferInstanceAs (Decidable (_ = true))

/-- A height is one only beside a width. -/
def fileAt (jfile : Json) : TgeviFile where
  fileName := (jfile.field "file_name").getString
  fileId := (jfile.field "file_id").getString
  fileUniqueId := (jfile.field "file_unique_id").getString
  mimeType := (jfile.field "mime_type").getString
  fileSize := (jfile.field "file_size").getUint64
  width := uint16 (jfile.field "width").getUint64
  height := if Has jfile "width" then uint16 (jfile.field "height").getUint64 else 0

def mediaAt (jmdia : Json) : TgeviMedia where
  fileId := (jmdia.field "file_id").getString
  fileName := (jmdia.field "file_name").getString
  mimeType := (jmdia.field "mime_type").getString
  title := (jmdia.field "title").getString
  performer := (jmdia.field "performer").getString
  fileUniqueId := (jmdia.field "file_unique_id").getString
  fileSize := (jmdia.field "file_size").getUint64
  duration := uint32 (jmdia.field "duration").getUint64
  width := uint16 (jmdia.field "width").getUint64
  height := if Has jmdia "width" then uint16 (jmdia.field "height").getUint64 else 0
  thumb := fileAt (jmdia.field "thumb")

def stickerAt (jstk : Json) : TgeviSticker where
  width := uint16 (jstk.field "width").getUint64
  height := uint16 (jstk.field "height").getUint64
  emoji := ((jstk.field "emoji").getString.getD []).take 5
  setName := (jstk.field "set_name").getString
  thumb := fileAt (jstk.field "thumb")
  isAnimated := (jstk.field "is_animated").getBoolean
  fileId := (jstk.field "file_id").getString
  fileUniqueId := (jstk.field "file_unique_id").getString
  fileSize := (jstk.field "file_size").getUint64

def fromAt (jfrom : Json) : TgeviFrom where
  id := (jfrom.field "id").getUint64
  firstName := (jfrom.field "first_name").getString
  lastName := (jfrom.field "last_name").getString
  username := (jfrom.field "username").getString
  lang := ((jfrom.field "language_code").getString.getD []).take 3
  isBot := (jfrom.field "is_bot").getBoolean

/-- Which names a chat has depends on its type. -/
def chatAt (jchat : Json) : TgeviChat :=
  let type := (jchat.field "type").getString.bind chatTypeOf
  { id := (jchat.field "id").getInt64
    type
    title := if type = some .privateChat then none else (jchat.field "title").getString
    firstName := if type = some .privateChat then (jchat.field "first_name").getString else none
    lastName := if type = some .privateChat then (jchat.field "last_name").getString else none
    allAdmins := type = some .group && (jchat.field "all_members_are_administrators").getBoolean
    username := (jchat.field "username").getString }

def entityAt (entity : Json) : TgeviEntity where
  offset := uint16 (entity.field "offset").getUint64
  length := uint16 (entity.field "length").getUint64
  type := (entity.field "type").getString

/-- The name of a sender counts only where there is no `forward_from`, and the date only where the
message is forwarded. -/
def headerAt (jmsg : Json) : TgevHeader where
  msgId := (jmsg.field "message_id").getUint64
  sender := fromAt (jmsg.field "from")
  senderParsed := true
  forwardFrom := fromAt (jmsg.field "forward_from")
  fwdSenderName := if Has jmsg "forward_from" then none else (jmsg.field "forward_sender_name").getString
  chat := chatAt (jmsg.field "chat")
  senderChat := chatAt (jmsg.field "sender_chat")
  date := (jmsg.field "date").getInt64
  forwardDate := if Has jmsg "forward_from" ∨ Has jmsg "forward_sender_name" then (jmsg.field "forward_date").getInt64 else 0
  isForwarded := Has jmsg "forward_from" ∨ Has jmsg "forward_sender_name"
  isUnknownFwd := ¬ Has jmsg "forward_from" ∧ Has jmsg "forward_sender_name"

/-! ### Structs that are filled in part

A decoder that returns early has set some of the fields; the others are still zero. -/

/-- The field is set to the value, or not set. -/
def SetTo {α : Type} (x value zero : α) : Prop := x = value ∨ x = zero

@[mk_iff] structure FilePart (file whole : TgeviFile) : Prop where
  fileName : SetTo file.fileName whole.fileName none
  fileId : SetTo file.fileId whole.fileId none
  fileUniqueId : SetTo file.fileUniqueId whole.fileUniqueId none
  mimeType : SetTo file.mimeType whole.mimeType none
  fileSize : SetTo file.fileSize whole.fileSize 0
  width : SetTo file.width whole.width 0
  height : SetTo file.height whole.height 0

@[mk_iff] structure EntityPart (entity whole : TgeviEntity) : Prop where
  offset : SetTo entity.offset whole.offset 0
  length : SetTo entity.length whole.length 0
  type : SetTo entity.type whole.type none

@[mk_iff] structure FromPart (sender whole : TgeviFrom) : Prop where
  id : SetTo sender.id whole.id 0
  firstName : SetTo sender.firstName whole.firstName none
  lastName : SetTo sender.lastName whole.lastName none
  username : SetTo sender.username whole.username none
  lang : SetTo sender.lang whole.lang []
  isBot : SetTo sender.isBot whole.isBot false

@[mk_iff] structure ChatPart (chat whole : TgeviChat) : Prop where
  id : SetTo chat.id whole.id 0
  title : SetTo chat.title whole.title none
  username : SetTo chat.username whole.username none
  firstName : SetTo chat.firstName whole.firstName none
  lastName : SetTo chat.lastName whole.lastName none
  type : SetTo chat.type whole.type none
  allAdmins : SetTo chat.allAdmins whole.allAdmins false

@[mk_iff] structure HeaderPart (header whole : TgevHeader) : Prop where
  msgId : SetTo header.msgId whole.msgId 0
  sender : FromPart header.sender whole.sender
  forwardFrom : FromPart header.forwardFrom whole.forwardFrom
  fwdSenderName : SetTo header.fwdSenderName whole.fwdSenderName none
  chat : ChatPart header.chat whole.chat
  senderChat : ChatPart header.senderChat whole.senderChat
  date : SetTo header.date whole.date 0
  forwardDate : SetTo header.forwardDate whole.forwardDate 0
  isForwarded : SetTo header.isForwarded whole.isForwarded false
  isUnknownFwd : SetTo header.isUnknownFwd whole.isUnknownFwd false

section Parts

@[simp] lemma setTo_value {α : Type} (value zero : α) : SetTo value value zero := Or.inl rfl

@[simp] lemma setTo_zero {α : Type} (value zero : α) : SetTo zero value zero := Or.inr rfl

lemma field_of_some {jso res : Json} {key : String} (h : jso.getEx key = some res) : jso.field key = res := by
  rw [Json.field, h]
  rfl

lemma field_of_none {jso : Json} {key : String} (h : jso.getEx key = none) : jso.field key = .null := by
  rw [Json.field, h]
  rfl

lemma optString_eq (jso : Json) (key : String) : jso.optString key = (jso.field key).getString := by
  unfold Json.optString Json.field
  cases jso.getEx key <;> rfl

lemma optUint64_eq (jso : Json) (key : String) : jso.optUint64 key = (jso.field key).getUint64 := by
  unfold Json.optUint64 Json.field
  cases jso.getEx key <;> rfl

lemma fileAt_null : fileAt .null = {} := rfl

lemma fromAt_null : fromAt .null = {} := rfl

lemma chatAt_null : chatAt .null = {} := rfl

lemma optBoolean_eq (jso : Json) (key : String) : ((jso.getEx key).map Json.getBoolean).getD false = (jso.field key).getBoolean := by
  unfold Json.field
  cases jso.getEx key <;> rfl

/-- A mandatory key by its path. -/
lemma wp_need_field {σ : Type} {jso : Json} {key : String} {code : ℤ} {Q : Json → σ → Prop} {R : ℤ → σ → Prop} {s : σ} :
    wp (need (jso.getEx key) code : Fill Fault σ Json) Q R s ↔
      (Has jso key → Q (jso.field key) s) ∧ (¬Has jso key → R code s) := by
  rw [wp_need_key, Has, Json.field]
  cases jso.getEx key <;> simp

lemma parseTgeviFile_path (jfile : Json) :
    wp (parseTgeviFile jfile) (fun _ file => file = fileAt jfile) (fun _ file => FilePart file (fileAt jfile)) {} := by
  unfold parseTgeviFile
  cases hwidth : jfile.getEx "width" with
  | none => simp [wp_need_field, filePart_iff, fileAt, optString_eq, not_has_of_none hwidth, field_of_none hwidth, Json.getUint64, uint16]
  | some width => simp [wp_need_field, filePart_iff, fileAt, optString_eq, has_of_some hwidth, field_of_some hwidth]

lemma parseTgeviFrom_path (jfrom : Json) :
    wp (parseTgeviFrom jfrom) (fun _ sender => sender = fromAt jfrom) (fun _ sender => FromPart sender (fromAt jfrom)) {} := by
  unfold parseTgeviFrom
  simp only [optString_eq, optBoolean_eq]
  cases hlang : (jfrom.field "language_code").getString <;>
    simp [wp_need_field, fromPart_iff, fromAt, hlang, saneStrncpy]

lemma parseTgeviChat_path (jchat : Json) :
    wp (parseTgeviChat jchat) (fun _ chat => chat = chatAt jchat) (fun _ chat => ChatPart chat (chatAt jchat)) {} := by
  unfold parseTgeviChat
  simp only [optString_eq]
  cases htype : (jchat.field "type").getString with
  | none => simp [wp_need_field, chatPart_iff, chatAt, htype]
  | some type =>
    cases hkind : chatTypeOf type with
    | none => simp [wp_need_field, chatPart_iff, chatAt, htype, hkind]
    | some kind => cases kind <;> simp [wp_need_field, chatPart_iff, chatAt, htype, hkind]

lemma FilePart.whole (file : TgeviFile) : FilePart file file := by simp [filePart_iff]

lemma FromPart.whole (sender : TgeviFrom) : FromPart sender sender := by simp [fromPart_iff]

lemma ChatPart.whole (chat : TgeviChat) : ChatPart chat chat := by simp [chatPart_iff]

lemma HeaderPart.whole (header : TgevHeader) : HeaderPart header header := by
  simp [headerPart_iff, FromPart.whole, ChatPart.whole]

lemma FromPart.zero (whole : TgeviFrom) : FromPart {} whole := by simp [fromPart_iff]

lemma ChatPart.zero (whole : TgeviChat) : ChatPart {} whole := by simp [chatPart_iff]

lemma final_parseTgeviFile {jfile : Json} (hfile : FileOk jfile) : final (parseTgeviFile jfile) {} = fileAt jfile :=
  ((parseTgeviFile_checks jfile).wp_iff.mp (parseTgeviFile_path jfile)).1 hfile

lemma filePart_final (jfile : Json) : FilePart (final (parseTgeviFile jfile) {}) (fileAt jfile) := by
  by_cases hfile : FileOk jfile
  · rw [final_parseTgeviFile hfile]
    exact FilePart.whole _
  · exact ((parseTgeviFile_checks jfile).wp_iff.mp (parseTgeviFile_path jfile)).2 hfile

lemma final_parseTgeviFrom {jfrom : Json} (hfrom : FromOk jfrom) : final (parseTgeviFrom jfrom) {} = fromAt jfrom :=
  ((parseTgeviFrom_checks jfrom).wp_iff.mp (parseTgeviFrom_path jfrom)).1 hfrom

lemma fromPart_final {jfrom : Json} (hfrom : ¬FromOk jfrom) : FromPart (final (parseTgeviFrom jfrom) {}) (fromAt jfrom) :=
  ((parseTgeviFrom_checks jfrom).wp_iff.mp (parseTgeviFrom_path jfrom)).2 hfrom

lemma final_parseTgeviChat {jchat : Json} (hchat : ChatOk jchat) : final (parseTgeviChat jchat) {} = chatAt jchat :=
  ((parseTgeviChat_checks jchat).wp_iff.mp (parseTgeviChat_path jchat)).1 hchat

lemma chatPart_final {jchat : Json} (hchat : ¬ChatOk jchat) : ChatPart (final (parseTgeviChat jchat) {}) (chatAt jchat) :=
  ((parseTgeviChat_checks jchat).wp_iff.mp (parseTgeviChat_path jchat)).2 hchat

/-- What the decoder takes: where the animation has a thumbnail, it is made of the animation itself. -/
def mediaTaken (jmdia : Json) : TgeviMedia := { mediaAt jmdia with thumb := if Has jmdia "thumb" then fileAt jmdia else {} }

lemma final_parseTgeviMedia {jmdia : Json} (hmedia : MediaOk jmdia) : final (parseTgeviMedia jmdia) {} = mediaTaken jmdia := by
  apply final_of_wp (P := fun imdia : TgeviMedia => imdia = mediaTaken jmdia)
  have hchecks := parseTgeviFile_checks jmdia
  obtain ⟨hname, hmime, hfile⟩ := hmedia
  have hthumb := final_parseTgeviFile hfile
  obtain ⟨hid, hunique, hsize, hheight⟩ := hfile
  unfold parseTgeviMedia
  simp only [optString_eq, optUint64_eq]
  cases hw : jmdia.getEx "width" <;> cases ht : jmdia.getEx "thumb" <;>
    simp [wp_need_field, mediaTaken, mediaAt, hchecks.wp_iff, hname, hmime, hid, hunique, hsize, hheight, hthumb,
      has_of_some, not_has_of_none, field_of_some, field_of_none, hw, ht, Json.getUint64, uint16]

lemma final_parseTgeviSticker {jstk : Json} (hemoji : EmojiOk jstk) (hsticker : StickerOk jstk) :
    final (parseTgeviSticker jstk) {} = stickerAt jstk := by
  apply final_of_wp (P := fun istk : TgeviSticker => istk = stickerAt jstk)
  obtain ⟨hwidth, hheight, he, hset, hanimated, hid, hunique, hsize, thumb, hthumb, hfile⟩ := hsticker
  obtain ⟨emoji, hsome⟩ := Option.isSome_iff_exists.mp he
  obtain ⟨src, hsrc⟩ := exists_emoji_string hemoji hwidth hheight hsome
  have hsrc' : (jstk.field "emoji").getString = some src := by rw [field_of_some hsome, hsrc]
  have hfile' : FileOk (jstk.field "thumb") := by rwa [field_of_some hthumb]
  unfold parseTgeviSticker
  simp [wp_need_field, stickerAt, hwidth, hheight, he, hset, hanimated, hid, hunique, hsize, has_of_some hthumb, hsrc', saneStrncpy,
    (parseTgeviFile_checks _).wp_iff, final_parseTgeviFile hfile']

/-- The header with the fields of the forward. -/
lemma parseForward_path (jmsg : Json) (msgId : ℕ) (sender : TgeviFrom) :
    wp (parseForward jmsg)
      (fun _ e => e = { headerAt jmsg with msgId, sender, chat := {}, senderChat := {}, date := 0 })
      (fun _ e => HeaderPart e { headerAt jmsg with msgId, sender })
      { msgId, sender, senderParsed := true } := by
  unfold parseForward
  cases hfrom : jmsg.getEx "forward_from" with
  | none =>
    cases hname : jmsg.getEx "forward_sender_name" <;>
      simp [wp_need_field, headerPart_iff, headerAt, field_of_none, field_of_some, hfrom, hname, not_has_of_none, has_of_some,
        fromAt_null, FromPart.whole, ChatPart.zero, Json.getString]
  | some jfrom =>
    simp +contextual [wp_need_field, (parseTgeviFrom_checks _).wp_iff, headerPart_iff, headerAt, field_of_some hfrom,
      has_of_some hfrom, final_parseTgeviFrom, fromPart_final, FromPart.whole, ChatPart.zero]

lemma parseHeader_path (jmsg : Json) :
    wp (parseHeader jmsg) (fun _ e => e = headerAt jmsg) (fun _ e => HeaderPart e (headerAt jmsg)) {} := by
  have hforward := fun msgId sender => (parseForward_checks jmsg).wp_iff.mp (parseForward_path jmsg msgId sender)
  unfold parseHeader
  simp only [wp_bind, wp_need_field, wp_modify, wp_part, (parseTgeviFrom_checks _).wp_iff, (parseForward_checks _).wp_iff]
  refine ⟨fun _ => ⟨fun _ => ⟨fun hfrom => ⟨fun hfwd => ⟨fun _ => ?_, fun _ => ?_⟩, fun hfwd => ?_⟩, fun hfrom => ?_⟩, fun _ => ?_⟩, fun _ => ?_⟩
  · rw [final_parseTgeviFrom hfrom, (hforward _ _).1 hfwd]
    cases hsender : jmsg.getEx "sender_chat" with
    | none => 
      simp +contextual [wp_need_field, (parseTgeviChat_checks _).wp_iff, headerPart_iff, headerAt, field_of_none hsender,
        chatAt_null, final_parseTgeviChat, chatPart_final, FromPart.whole, ChatPart.whole]
    | some jchat => 
      simp +contextual [wp_need_field, (parseTgeviChat_checks _).wp_iff, headerPart_iff, headerAt, field_of_some hsender,
        final_parseTgeviChat, chatPart_final, FromPart.whole, ChatPart.whole, ChatPart.zero]
  · rw [final_parseTgeviFrom hfrom, (hforward _ _).1 hfwd]
    simp [headerPart_iff, headerAt, FromPart.whole, ChatPart.zero]
  · rw [final_parseTgeviFrom hfrom]
    exact (hforward _ _).2 hfwd
  · simp [headerPart_iff, headerAt, fromPart_final hfrom, FromPart.zero, ChatPart.zero]
  · simp [headerPart_iff, headerAt, FromPart.zero, ChatPart.zero]
  · simp [headerPart_iff, FromPart.zero, ChatPart.zero]

end Parts

end GNUWeebBot.Proofs
