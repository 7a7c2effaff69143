import GNUWeebBot.Lib.Fill
import GNUWeebBot.Model.Json

/-!
# The event decoder of `tg_event.h` and `tg_event/*.h`

A `struct tgev` is zeroed before it is decoded into, and a decoder that returns early leaves it
partly filled. The five message decoders read the same fields of a message in the same order
between their own, so these are one struct and one function here. Allocations succeed.
-/

namespace GNUWeebBot

open Fill

/-- A precondition of a callee that does not hold, or an `abort`. -/
inductive Fault
  | arrayLength
  | arrayGetIdx
  | strncpyNull
  | strnlenNull
  | nullDeref
  | abort
  deriving DecidableEq, Repr

def uint16 (n : ℕ) : ℕ := n % 2 ^ 16
def uint32 (n : ℕ) : ℕ := n % 2 ^ 32

/-- The string in `dest` after `sane_strncpy(dest, src, n)`. -/
def saneStrncpy {σ : Type} (src : CharPtr) (n : ℕ) : Fill Fault σ (List UInt8) :=
  match src with
  | some src => pure (src.take (n - 1))
  | none => crash .strncpyNull

def jsonArrayLength {σ : Type} (jso : Json) : Fill Fault σ ℕ :=
  match jso.array? with
  | some elems => pure elems.length
  | none => crash .arrayLength

def jsonArrayGetIdx {σ : Type} (jso : Json) (idx : ℕ) : Fill Fault σ Json :=
  match jso.array? with
  | some elems => pure (elems.getD idx .null)
  | none => crash .arrayGetIdx

/-! ### Parts of a message -/

inductive ChatType
  | group
  | supergroup
  | privateChat
  deriving DecidableEq, Repr

structure TgeviFile where
  fileName : CharPtr := none
  fileId : CharPtr := none
  fileUniqueId : CharPtr := none
  mimeType : CharPtr := none
  fileSize : ℕ := 0
  width : ℕ := 0
  height : ℕ := 0

structure TgeviMedia where
  fileId : CharPtr := none
  fileName : CharPtr := none
  mimeType : CharPtr := none
  title : CharPtr := none
  performer : CharPtr := none
  fileUniqueId : CharPtr := none
  fileSize : ℕ := 0
  duration : ℕ := 0
  width : ℕ := 0
  height : ℕ := 0
  thumb : TgeviFile := {}

structure TgeviFrom where
  id : ℕ := 0
  firstName : CharPtr := none
  lastName : CharPtr := none
  username : CharPtr := none
  lang : List UInt8 := []
  isBot : Bool := false

structure TgeviChat where
  id : ℤ := 0
  title : CharPtr := none
  username : CharPtr := none
  firstName : CharPtr := none
  lastName : CharPtr := none
  type : Option ChatType := none
  allAdmins : Bool := false

structure TgeviEntity where
  offset : ℕ := 0
  length : ℕ := 0
  type : CharPtr := none

structure TgeviSticker where
  width : ℕ := 0
  height : ℕ := 0
  emoji : List UInt8 := []
  setName : CharPtr := none
  thumb : TgeviFile := {}
  isAnimated : Bool := false
  fileId : CharPtr := none
  fileUniqueId : CharPtr := none
  fileSize : ℕ := 0

def parseTgeviFile (jfile : Json) : Fill Fault TgeviFile Unit := do
  modify fun file => { file with fileName := jfile.optString "file_name" }
  modify fun file => { file with mimeType := jfile.optString "mime_type" }
  let res ← need (jfile.getEx "file_id") (-EINVAL)
  modify fun file => { file with fileId := res.getString }
  let res ← need (jfile.getEx "file_unique_id") (-EINVAL)
  modify fun file => { file with fileUniqueId := res.getString }
  let res ← need (jfile.getEx "file_size") (-EINVAL)
  modify fun file => { file with fileSize := res.getUint64 }
  match jfile.getEx "width" with
  | none => modify fun file => { file with width := 0, height := 0 }
  | some res =>
    modify fun file => { file with width := uint16 res.getUint64 }
    let res ← need (jfile.getEx "height") (-EINVAL)
    modify fun file => { file with height := uint16 res.getUint64 }

def parseTgeviMedia (jmdia : Json) : Fill Fault TgeviMedia Unit := do
  let res ← need (jmdia.getEx "file_name") (-EINVAL)
  modify fun imdia => { imdia with fileName := res.getString }
  let res ← need (jmdia.getEx "mime_type") (-EINVAL)
  modify fun imdia => { imdia with mimeType := res.getString }
  modify fun imdia => { imdia with duration := uint32 (jmdia.optUint64 "duration") }
  match jmdia.getEx "width" with
  | none => modify fun imdia => { imdia with width := 0, height := 0 }
  | some res =>
    modify fun imdia => { imdia with width := uint16 res.getUint64 }
    let res ← need (jmdia.getEx "height") (-EINVAL)
    modify fun imdia => { imdia with height := uint16 res.getUint64 }
  modify fun imdia => { imdia with title := jmdia.optString "title" }
  modify fun imdia => { imdia with performer := jmdia.optString "performer" }
  let res ← need (jmdia.getEx "file_id") (-EINVAL)
  modify fun imdia => { imdia with fileId := res.getString }
  let res ← need (jmdia.getEx "file_unique_id") (-EINVAL)
  modify fun imdia => { imdia with fileUniqueId := res.getString }
  let res ← need (jmdia.getEx "file_size") (-EINVAL)
  modify fun imdia => { imdia with fileSize := res.getUint64 }
  match jmdia.getEx "thumb" with
  | none => pure ()
  | some _ =>
    -- the source gives `jmdia` itself, not the value at "thumb"
    part TgeviMedia.thumb (fun thumb imdia => { imdia with thumb }) (parseTgeviFile jmdia)

/-- The body of the loop of `parse_tgevi_entities`, on a zeroed entry. -/
def parseTgeviEntity (entity : Json) : TgeviEntity :=
  match entity.getEx "offset" with
  | none => {}
  | some offset =>
    match entity.getEx "length" with
    | none => { offset := uint16 offset.getUint64 }
    | some length =>
      { offset := uint16 offset.getUint64
        length := uint16 length.getUint64
        type := entity.optString "type" }

def parseTgeviEntities {σ : Type} (jentities : Json) (entityC : ℕ) : Fill Fault σ (List TgeviEntity) :=
  each (fun i => do
    let entity ← jsonArrayGetIdx jentities i
    pure (parseTgeviEntity entity)) (List.range entityC)

/-- The loop of `parse_tgevi_photos` drops what `parse_tgevi_file` returns. -/
def parseTgeviPhotos {σ : Type} (jphotos : Json) (photoC : ℕ) : Fill Fault σ (List TgeviFile) :=
  each (fun i => do
    let photo ← jsonArrayGetIdx jphotos i
    let (_, file) ← fresh (parseTgeviFile photo) {}
    pure file) (List.range photoC)

def parseTgeviFrom (jfrom : Json) : Fill Fault TgeviFrom Unit := do
  let res ← need (jfrom.getEx "id") (-EINVAL)
  modify fun from' => { from' with id := res.getUint64 }
  let res ← need (jfrom.getEx "first_name") (-EINVAL)
  modify fun from' => { from' with firstName := res.getString }
  modify fun from' => { from' with lastName := jfrom.optString "last_name" }
  modify fun from' => { from' with username := jfrom.optString "username" }
  match jfrom.optString "language_code" with
  | none => modify fun from' => { from' with lang := [] }
  | some lang =>
    let lang ← saneStrncpy (some lang) 4
    modify fun from' => { from' with lang }
  modify fun from' => { from' with isBot := ((jfrom.getEx "is_bot").map Json.getBoolean).getD false }

/-- The `switch` on the first byte of a chat's type. -/
def chatTypeOf (type : List UInt8) : Option ChatType :=
  match type.head? with
  | some 115 => some .supergroup
  | some 103 => some .group
  | some 112 => some .privateChat
  | _ => none

def parseTgeviChat (jchat : Json) : Fill Fault TgeviChat Unit := do
  let res ← need (jchat.getEx "id") (-EINVAL)
  modify fun chat => { chat with id := res.getInt64 }
  let type ← need (jchat.optString "type") (-EINVAL)
  let type ← need (chatTypeOf type) (-EINVAL)
  modify fun chat => { chat with type := some type }
  match type with
  | .privateChat =>
    modify fun chat => { chat with title := none }
    let res ← need (jchat.getEx "first_name") (-EINVAL)
    modify fun chat => { chat with firstName := res.getString }
    modify fun chat => { chat with lastName := jchat.optString "last_name" }
  | .group =>
    let res ← need (jchat.getEx "all_members_are_administrators") (-EINVAL)
    modify fun chat => { chat with allAdmins := res.getBoolean }
    let res ← need (jchat.getEx "title") (-EINVAL)
    modify fun chat => { chat with title := res.getString }
  | .supergroup =>
    let res ← need (jchat.getEx "title") (-EINVAL)
    modify fun chat => { chat with title := res.getString }
  modify fun chat => { chat with username := jchat.optString "username" }

def parseTgeviSticker (jstk : Json) : Fill Fault TgeviSticker Unit := do
  let res ← need (jstk.getEx "width") (-EINVAL)
  modify fun istk => { istk with width := uint16 res.getUint64 }
  let res ← need (jstk.getEx "height") (-EINVAL)
  modify fun istk => { istk with height := uint16 res.getUint64 }
  let res ← need (jstk.getEx "emoji") (-EINVAL)
  let emoji ← saneStrncpy res.getString 6
  modify fun istk => { istk with emoji }
  let res ← need (jstk.getEx "set_name") (-EINVAL)
  modify fun istk => { istk with setName := res.getString }
  let res ← need (jstk.getEx "is_animated") (-EINVAL)
  modify fun istk => { istk with isAnimated := res.getBoolean }
  let res ← need (jstk.getEx "file_id") (-EINVAL)
  modify fun istk => { istk with fileId := res.getString }
  let res ← need (jstk.getEx "file_unique_id") (-EINVAL)
  modify fun istk => { istk with fileUniqueId := res.getString }
  let res ← need (jstk.getEx "file_size") (-EINVAL)
  modify fun istk => { istk with fileSize := res.getUint64 }
  let res ← need (jstk.getEx "thumb") (-EINVAL)
  part TgeviSticker.thumb (fun thumb istk => { istk with thumb }) (parseTgeviFile res)

/-! ### Messages -/

/-- What every message has. `senderParsed` is not in the C struct: it says that
`parse_tgevi_from` has returned zero for `from`. -/
structure TgevHeader where
  msgId : ℕ := 0
  sender : TgeviFrom := {}
  senderParsed : Bool := false
  forwardFrom : TgeviFrom := {}
  fwdSenderName : CharPtr := none
  chat : TgeviChat := {}
  senderChat : TgeviChat := {}
  date : ℤ := 0
  forwardDate : ℤ := 0
  isForwarded : Bool := false
  isUnknownFwd : Bool := false

structure TgevText (R : Type) where
  header : TgevHeader := {}
  text : CharPtr := none
  entityC : ℕ := 0
  entities : List TgeviEntity := []
  replyTo : Option R := none

structure TgevPhoto (R : Type) where
  header : TgevHeader := {}
  photoC : ℕ := 0
  photo : List TgeviFile := []
  caption : CharPtr := none
  captionEntityC : ℕ := 0
  captionEntities : List TgeviEntity := []
  replyTo : Option R := none

structure TgevSticker (R : Type) where
  header : TgevHeader := {}
  sticker : TgeviSticker := {}
  replyTo : Option R := none

structure TgevGif (R : Type) where
  header : TgevHeader := {}
  animation : TgeviMedia := {}
  document : TgeviFile := {}
  caption : CharPtr := none
  captionEntityC : ℕ := 0
  captionEntities : List TgeviEntity := []
  replyTo : Option R := none

structure TgevUnknown (R : Type) where
  header : TgevHeader := {}
  entityC : ℕ := 0
  entities : List TgeviEntity := []
  replyTo : Option R := none

/-- The union of `struct tgev` with the `type` that selects its member; `zeroed` is the type 0,
which no decoder has chosen. -/
inductive TgevMsg (R : Type)
  | zeroed
  | text (etext : TgevText R)
  | photo (ephoto : TgevPhoto R)
  | sticker (estk : TgevSticker R)
  | gif (egif : TgevGif R)
  | unknown (eukw : TgevUnknown R)

structure Tgev where
  updateId : ℕ := 0
  isRepliedNode : Bool := false
  msg : TgevMsg Tgev := .zeroed

def parseForward (jmsg : Json) : Fill Fault TgevHeader Unit := do
  match jmsg.getEx "forward_from" with
  | none =>
    match jmsg.getEx "forward_sender_name" with
    | none => modify fun e => { e with forwardDate := 0, isForwarded := false, isUnknownFwd := false, fwdSenderName := none }
    | some res => modify fun e => { e with fwdSenderName := res.getString, isForwarded := true, isUnknownFwd := true }
  | some res =>
    part TgevHeader.forwardFrom (fun forwardFrom e => { e with forwardFrom }) (parseTgeviFrom res)
    modify fun e => { e with isForwarded := true, isUnknownFwd := false, fwdSenderName := none }
  let isForwarded ← read TgevHeader.isForwarded
  if isForwarded then
    let res ← need (jmsg.getEx "forward_date") (-EINVAL)
    modify fun e => { e with forwardDate := res.getInt64 }

/-- From `message_id` to `date`, as in each of the five decoders. -/
def parseHeader (jmsg : Json) : Fill Fault TgevHeader Unit := do
  let res ← need (jmsg.getEx "message_id") (-EINVAL)
  modify fun e => { e with msgId := res.getUint64 }
  let res ← need (jmsg.getEx "from") (-EINVAL)
  part TgevHeader.sender (fun sender e => { e with sender }) (parseTgeviFrom res)
  modify fun e => { e with senderParsed := true }
  parseForward jmsg
  let res ← need (jmsg.getEx "chat") (-EINVAL)
  part TgevHeader.chat (fun chat e => { e with chat }) (parseTgeviChat res)
  match jmsg.getEx "sender_chat" with
  | none => pure ()
  | some res => part TgevHeader.senderChat (fun senderChat e => { e with senderChat }) (parseTgeviChat res)
  let res ← need (jmsg.getEx "date") (-EINVAL)
  modify fun e => { e with date := res.getInt64 }

/-- The entities at a key with their count; the count is a `uint16_t`. -/
def parseEntitiesAt {σ : Type} (jmsg : Json) (key : String) : Fill Fault σ (ℕ × List TgeviEntity) :=
  match jmsg.getEx key with
  | none => pure (0, [])
  | some res => do
    let length ← jsonArrayLength res
    let entityC := uint16 length
    if entityC = 0 then pure (0, [])
    else
      let entities ← parseTgeviEntities res entityC
      pure (entityC, entities)

/-- A caption with its entities, which are looked for only where there is a caption. -/
def parseCaption {σ : Type} (jmsg : Json) : Fill Fault σ (CharPtr × ℕ × List TgeviEntity) :=
  match jmsg.getEx "caption" with
  | none => pure (none, 0, [])
  | some res => do
    let (entityC, entities) ← parseEntitiesAt jmsg "caption_entities"
    pure (res.getString, entityC, entities)

/-! Each decoder selects its member of the union, which is zeroed then. `replyTo` is what
`reply_to_message` is decoded to; it is looked at only where the source decodes it. -/

section Decoders

variable (jmsg : Json) (replyTo : Except Fault (Option Tgev))

def parseEventText : Fill Fault Tgev Unit := do
  let res ← need (jmsg.getEx "text") (-ECANCELED)
  part (fun _ => {}) (fun etext evt => { evt with msg := .text etext }) (do
    modify fun etext => { etext with text := res.getString }
    part TgevText.header (fun header etext => { etext with header }) (parseHeader jmsg)
    let (entityC, entities) ← parseEntitiesAt jmsg "entities"
    modify fun etext => { etext with entityC, entities }
    let replyTo ← lift replyTo
    modify fun etext => { etext with replyTo })

/-- The reply of a photo is still to be parsed in the source. -/
def parseEventPhoto : Fill Fault Tgev Unit := do
  let res ← need (jmsg.getEx "photo") (-ECANCELED)
  part (fun _ => {}) (fun ephoto evt => { evt with msg := .photo ephoto }) (do
    let length ← jsonArrayLength res
    let photoC := uint16 length
    modify fun ephoto => { ephoto with photoC }
    let photo ← parseTgeviPhotos res photoC
    modify fun ephoto => { ephoto with photo }
    part TgevPhoto.header (fun header ephoto => { ephoto with header }) (parseHeader jmsg)
    let (caption, captionEntityC, captionEntities) ← parseCaption jmsg
    modify fun ephoto => { ephoto with caption, captionEntityC, captionEntities }
    modify fun ephoto => { ephoto with replyTo := none })

def parseEventSticker : Fill Fault Tgev Unit := do
  let res ← need (jmsg.getEx "sticker") (-ECANCELED)
  part (fun _ => {}) (fun estk evt => { evt with msg := .sticker estk }) (do
    part TgevSticker.sticker (fun sticker estk => { estk with sticker }) (parseTgeviSticker res)
    part TgevSticker.header (fun header estk => { estk with header }) (parseHeader jmsg)
    let replyTo ← lift replyTo
    modify fun estk => { estk with replyTo })

/-- The reply of a gif is still to be parsed in the source. -/
def parseEventGif : Fill Fault Tgev Unit := do
  let res ← need (jmsg.getEx "animation") (-ECANCELED)
  part (fun _ => {}) (fun egif evt => { evt with msg := .gif egif }) (do
    part TgevGif.animation (fun animation egif => { egif with animation }) (parseTgeviMedia res)
    let res ← need (jmsg.getEx "document") (-EINVAL)
    -- the source drops what this call returns
    ignore (part TgevGif.document (fun document egif => { egif with document }) (parseTgeviFile res))
    part TgevGif.header (fun header egif => { egif with header }) (parseHeader jmsg)
    let (caption, captionEntityC, captionEntities) ← parseCaption jmsg
    modify fun egif => { egif with caption, captionEntityC, captionEntities }
    modify fun egif => { egif with replyTo := none })

def parseEventUnknown : Fill Fault Tgev Unit :=
  part (fun _ => {}) (fun eukw evt => { evt with msg := .unknown eukw }) (do
    part TgevUnknown.header (fun header eukw => { eukw with header }) (parseHeader jmsg)
    let (entityC, entities) ← parseEntitiesAt jmsg "entities"
    modify fun eukw => { eukw with entityC, entities }
    let replyTo ← lift replyTo
    modify fun eukw => { eukw with replyTo })

/-- The body of `parse_message_json_obj`. -/
def parseMessageWith : Fill Fault Tgev Unit := do
  returnUnless (-ECANCELED) (parseEventText jmsg replyTo)
  returnUnless (-ECANCELED) (parseEventPhoto jmsg)
  returnUnless (-ECANCELED) (parseEventSticker jmsg replyTo)
  returnUnless (-ECANCELED) (parseEventGif jmsg)
  ignore (parseEventUnknown jmsg replyTo)

end Decoders

/-- What `parse_replied_msg` makes of the decoded reply. -/
def parseRepliedMsg (decoded : Except Fault (ℤ × Tgev)) : Except Fault (Option Tgev) :=
  match decoded with
  | .error e => .error e
  | .ok (ret, replyTo) => if ret ≠ 0 then .ok none else .ok (some { replyTo with isRepliedNode := true })

def parseMessageJsonObj (jmsg : Json) : Fill Fault Tgev Unit :=
  parseMessageWith jmsg
    (match h : jmsg.getEx "reply_to_message" with
    | none => .ok none
    | some res =>
      if res.isNull then .ok none
      else
        have := Json.sizeOf_getEx h
        parseRepliedMsg (call (parseMessageJsonObj res) {}))
termination_by sizeOf jmsg

def parseUpdateId (jsonObj : Json) : Fill Fault Tgev Unit := do
  let res ← need (jsonObj.getEx "update_id") (-EINVAL)
  modify fun evt => { evt with updateId := res.getUint64 }

def parseMessage (jsonObj : Json) : Fill Fault Tgev Unit := do
  let jmsg ← need (jsonObj.getEx "message") (-EINVAL)
  modify fun evt => { evt with isRepliedNode := false }
  parseMessageJsonObj jmsg

/-! The json-c tokener is a parameter: the value of some bytes, `none` where it reports an error. -/

section Loading

variable (tokener : List UInt8 → Option Json)

/-- The return code and the value, `NULL` after an error. -/
def tgEventJsonParse (jsonStr : List UInt8) : ℤ × Json :=
  match tokener jsonStr with
  | some json => (0, json)
  | none => (-EINVAL, .null)

/-- `unlikely` makes a condition of its argument, so what it returns is not negative. -/
def unlikely (expr : ℤ) : ℤ := if expr ≠ 0 then 1 else 0

def internalTgEventLoadStr (jsonStr : List UInt8) : Fill Fault Tgev Unit := do
  let (ret, json) := tgEventJsonParse tokener jsonStr
  if unlikely ret < 0 then exit ret
  parseUpdateId json
  parseMessage json

/-- `tg_event_load_str` on a zeroed `struct tgev`: the bytes up to the terminator, and it. -/
def tgEventLoadStr (jsonStr : List UInt8) : Except Fault (ℤ × Tgev) :=
  call (internalTgEventLoadStr tokener (cString jsonStr ++ [0])) {}

end Loading

/-! ### Getters -/

namespace Tgev

/-- The message id and the sender that `tge_get_msg_id` and `tge_get_user_id` read are in here; for
the type 0 both return zero. -/
def header (evt : Tgev) : TgevHeader :=
  match evt.msg with
  | .zeroed => {}
  | .text etext => etext.header
  | .photo ephoto => ephoto.header
  | .sticker estk => estk.header
  | .gif egif => egif.header
  | .unknown eukw => eukw.header

/-- `tge_get_chat_id`. -/
def chatId (evt : Tgev) : ℤ :=
  match evt.msg with
  | .zeroed => -1
  | _ => evt.header.chat.id

/-- `tge_get_from`. -/
def sender? (evt : Tgev) : Option TgeviFrom :=
  match evt.msg with
  | .zeroed => none
  | _ => some evt.header.sender

/-- The value of the member `reply_to` of the variant that the type selects. -/
def replyTo (evt : Tgev) : Option Tgev :=
  match evt.msg with
  | .zeroed => none
  | .text etext => etext.replyTo
  | .photo ephoto => ephoto.replyTo
  | .sticker estk => estk.replyTo
  | .gif egif => egif.replyTo
  | .unknown eukw => eukw.replyTo

end Tgev

end GNUWeebBot
