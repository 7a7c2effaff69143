import GNUWeebBot.Lib.StructLayout
import GNUWeebBot.Model.TgEvent

/-!
# The union of `struct tgev` in memory

The members of each variant in the order of the source, and `tge_get_reply_to`, which reads the
union as a `struct tgev_text` whatever its type is.
-/

namespace GNUWeebBot

open CVal

/-- What a pointer of an event can point to. -/
inductive PtrKind
  | string
  | array
  | event
  deriving DecidableEq

abbrev Member : Type := String × CVal PtrKind

/-- The two's complement of a signed 64-bit value. -/
def int64 (i : ℤ) : CVal PtrKind := .int 8 (i % 2 ^ 64).toNat

def bool8 (b : Bool) : CVal PtrKind := .int 1 b.toNat

def string (s : CharPtr) : CVal PtrKind := .ptr .string s.isSome

def TgeviFile.members (file : TgeviFile) : List Member :=
  [("file_name", string file.fileName),
   ("file_id", string file.fileId),
   ("file_unique_id", string file.fileUniqueId),
   ("mime_type", string file.mimeType),
   ("file_size", .int 8 file.fileSize),
   ("width", .int 2 file.width),
   ("height", .int 2 file.height)]

def TgeviMedia.members (imdia : TgeviMedia) : List Member :=
  [("file_id", string imdia.fileId),
   ("file_name", string imdia.fileName),
   ("mime_type", string imdia.mimeType),
   ("title", string imdia.title),
   ("performer", string imdia.performer),
   ("file_unique_id", string imdia.fileUniqueId),
   ("file_size", .int 8 imdia.fileSize),
   ("duration", .int 4 imdia.duration),
   ("width", .int 2 imdia.width),
   ("height", .int 2 imdia.height),
   ("thumb", .struct imdia.thumb.members)]

def TgeviFrom.members (sender : TgeviFrom) : List Member :=
  [("id", .int 8 sender.id),
   ("first_name", string sender.firstName),
   ("last_name", string sender.lastName),
   ("username", string sender.username),
   ("lang", .chars 4 sender.lang),
   ("is_bot", bool8 sender.isBot),
   ("__pad", .chars 3 [])]

/-- The values of the enumeration; zero where none is stored. -/
def chatTypeValue : Option ChatType → ℕ
  | none => 0
  | some .group => 1
  | some .supergroup => 2
  | some .privateChat => 4

def TgeviChat.members (chat : TgeviChat) : List Member :=
  [("id", int64 chat.id),
   ("title", string chat.title),
   ("username", string chat.username),
   ("first_name", string chat.firstName),
   ("last_name", string chat.lastName),
   ("type", .int 4 (chatTypeValue chat.type)),
   ("all_admins", bool8 chat.allAdmins)]

def TgeviSticker.members (istk : TgeviSticker) : List Member :=
  [("width", .int 2 istk.width),
   ("height", .int 2 istk.height),
   ("emoji", .chars 6 istk.emoji),
   ("set_name", string istk.setName),
   ("thumb", .struct istk.thumb.members),
   ("is_animated", bool8 istk.isAnimated),
   ("file_id", string istk.fileId),
   ("file_unique_id", string istk.fileUniqueId),
   ("file_size", .int 8 istk.fileSize)]

/-- The members that every variant starts with. -/
def TgevHeader.members (header : TgevHeader) : List Member :=
  [("msg_id", .int 8 header.msgId),
   ("from", .struct header.sender.members),
   ("forward_from", .struct header.forwardFrom.members),
   ("fwd_sender_name", string header.fwdSenderName),
   ("chat", .struct header.chat.members),
   ("sender_chat", .struct header.senderChat.members)]

def TgevHeader.dates (header : TgevHeader) : List Member :=
  [("date", int64 header.date),
   ("forward_date", int64 header.forwardDate)]

def TgevHeader.flags (header : TgevHeader) : List Member :=
  [("is_forwarded", bool8 header.isForwarded),
   ("is_unknown_fwd", bool8 header.isUnknownFwd)]

def replyToMember (replyTo : Option Tgev) : Member := ("reply_to", .ptr .event replyTo.isSome)

def TgevText.members (etext : TgevText Tgev) : List Member :=
  etext.header.members ++ etext.header.dates ++
    [("text", string etext.text),
     ("entity_c", .int 2 etext.entityC),
     ("entities", .ptr .array (etext.entityC != 0)),
     replyToMember etext.replyTo] ++
    etext.header.flags

/-- `calloc` returns a block also for no photos at all. -/
def TgevPhoto.members (ephoto : TgevPhoto Tgev) : List Member :=
  ephoto.header.members ++ ephoto.header.dates ++ ephoto.header.flags ++
    [("photo_c", .int 2 ephoto.photoC),
     ("photo", .ptr .array true),
     ("caption", string ephoto.caption),
     ("caption_entity_c", .int 2 ephoto.captionEntityC),
     ("caption_entities", .ptr .array (ephoto.captionEntityC != 0)),
     replyToMember ephoto.replyTo]

def TgevSticker.members (estk : TgevSticker Tgev) : List Member :=
  estk.header.members ++ [("sticker", .struct estk.sticker.members)] ++ estk.header.dates ++ estk.header.flags ++
    [replyToMember estk.replyTo]

def TgevGif.members (egif : TgevGif Tgev) : List Member :=
  egif.header.members ++
    [("animation", .struct egif.animation.members),
     ("document", .struct egif.document.members)] ++
    egif.header.dates ++ egif.header.flags ++
    [("caption", string egif.caption),
     ("caption_entity_c", .int 2 egif.captionEntityC),
     ("caption_entities", .ptr .array (egif.captionEntityC != 0)),
     replyToMember egif.replyTo]

def TgevUnknown.members (eukw : TgevUnknown Tgev) : List Member :=
  eukw.header.members ++ eukw.header.dates ++
    [("entity_c", .int 2 eukw.entityC),
     ("entities", .ptr .array (eukw.entityC != 0)),
     replyToMember eukw.replyTo] ++
    eukw.header.flags

/-- The members of the variant that the type selects. -/
def TgevMsg.members : TgevMsg Tgev → List Member
  | .zeroed => []
  | .text etext => etext.members
  | .photo ephoto => ephoto.members
  | .sticker estk => estk.members
  | .gif egif => egif.members
  | .unknown eukw => eukw.members

/-- `offsetof(struct tgev_text, reply_to)`. -/
def offsetofTextReplyTo : ℕ := offsetOf (TgevText.members {}) "reply_to"

/-- `tge_get_reply_to`, with `NULL` for 0: every type but the unknown reads `msg_text.reply_to`. -/
def tgeGetReplyTo (addr : PtrKind → ℕ → ℕ) (evt : Tgev) : ℕ :=
  match evt.msg with
  | .unknown _ => 0
  | .text _ => loadPtr addr evt.msg.members offsetofTextReplyTo
  | .photo _ => loadPtr addr evt.msg.members offsetofTextReplyTo
  | .sticker _ => loadPtr addr evt.msg.members offsetofTextReplyTo
  | .gif _ => loadPtr addr evt.msg.members offsetofTextReplyTo
  | .zeroed => 0

/-- The pointer that is stored in the member `reply_to` of the variant that the type selects, and
`NULL` for an unknown event. -/
def storedReplyTo (addr : PtrKind → ℕ → ℕ) (evt : Tgev) : ℕ :=
  match evt.msg with
  | .unknown _ => 0
  | .zeroed => 0
  | msg => loadPtr addr msg.members (offsetOf msg.members "reply_to")

/-- Where the objects of an event lie: nowhere at `NULL`, and objects of different kinds apart. -/
structure Addresses where
  addr : PtrKind → ℕ → ℕ
  ne_null : ∀ kind off, addr kind off ≠ 0
  lt : ∀ kind off, addr kind off < 2 ^ 64
  apart : ∀ kind kind' off off', kind ≠ kind' → addr kind off ≠ addr kind' off'

end GNUWeebBot
