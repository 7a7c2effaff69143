import GNUWeebBot.Lib.Ledger
import GNUWeebBot.Model.TgEvent

/-!
# The heap blocks of an event

The decoders of `tg_event/*.h` once more, with the arrays and events that they allocate, and
`tg_event_destroy`. Of an event there are only the members that hold a block and the counts that decide
about them; the rest is decoded on structs of its own, for what the calls return.
-/

namespace GNUWeebBot.Blocks

open Fill

mutual

/-- What the union of a `struct tgev` holds. -/
inductive TgevOwn
  | zeroed
  | text (entityC : ℕ) (entities : Option ℕ) (replyTo : ReplyPtr)
  | photo (photo : Option ℕ) (captionEntityC : ℕ) (captionEntities : Option ℕ) (replyTo : ReplyPtr)
  | sticker (replyTo : ReplyPtr)
  | gif (captionEntityC : ℕ) (captionEntities : Option ℕ) (replyTo : ReplyPtr)
  | unknown (entityC : ℕ) (entities : Option ℕ) (replyTo : ReplyPtr)

/-- The member `reply_to`: the block of the event, and what that event holds. -/
inductive ReplyPtr
  | null
  | node (block : ℕ) (evt : TgevOwn)

end

structure Alloc where
  own : TgevOwn := .zeroed
  ledger : Ledger := {}

def calloc : Fill Fault Alloc ℕ := do
  let block ← read (fun a => a.ledger.obtain.1)
  modify fun a => { a with ledger := a.ledger.obtain.2 }
  pure block

def store (own : TgevOwn) : Fill Fault Alloc Unit := modify fun a => { a with own }

/-- A call that fills members without blocks. -/
def checked {τ : Type} (m : Fill Fault τ Unit) (t : τ) : Fill Fault Alloc Unit := do
  let (ret, _) ← fresh m t
  if ret ≠ 0 then exit ret

/-! ### Decoding -/

/-- The count of the entities at a key, and their array. -/
def parseEntitiesAt (jmsg : Json) (key : String) : Fill Fault Alloc (ℕ × Option ℕ) :=
  match jmsg.getEx key with
  | none => pure (0, none)
  | some res => do
    let length ← jsonArrayLength res
    let entityC := uint16 length
    if entityC = 0 then pure (0, none)
    else
      let entities ← calloc
      let _ ← parseTgeviEntities res entityC
      pure (entityC, some entities)

def parseCaption (jmsg : Json) : Fill Fault Alloc (ℕ × Option ℕ) :=
  match jmsg.getEx "caption" with
  | none => pure (0, none)
  | some _ => parseEntitiesAt jmsg "caption_entities"

section Decoders

variable (jmsg : Json) (replyTo : Ledger → Except Fault (ReplyPtr × Ledger))

/-- `reply_to_message`, decoded with the ledger as it is then. -/
def parseReplyTo : Fill Fault Alloc ReplyPtr := do
  let (reply, ledger) ← (fun a => lift (replyTo a.ledger) a : Fill Fault Alloc (ReplyPtr × Ledger))
  modify fun a => { a with ledger }
  pure reply

def parseEventText : Fill Fault Alloc Unit := do
  let _ ← need (jmsg.getEx "text") (-ECANCELED)
  store (.text 0 none .null)
  checked (parseHeader jmsg) {}
  let (entityC, entities) ← parseEntitiesAt jmsg "entities"
  store (.text entityC entities .null)
  let reply ← parseReplyTo replyTo
  store (.text entityC entities reply)

def parseEventPhoto : Fill Fault Alloc Unit := do
  let res ← need (jmsg.getEx "photo") (-ECANCELED)
  store (.photo none 0 none .null)
  let length ← jsonArrayLength res
  let photo ← calloc
  let _ ← parseTgeviPhotos res (uint16 length)
  store (.photo (some photo) 0 none .null)
  checked (parseHeader jmsg) {}
  let (captionEntityC, captionEntities) ← parseCaption jmsg
  store (.photo (some photo) captionEntityC captionEntities .null)

def parseEventSticker : Fill Fault Alloc Unit := do
  let res ← need (jmsg.getEx "sticker") (-ECANCELED)
  store (.sticker .null)
  checked (parseTgeviSticker res) {}
  checked (parseHeader jmsg) {}
  let reply ← parseReplyTo replyTo
  store (.sticker reply)

def parseEventGif : Fill Fault Alloc Unit := do
  let res ← need (jmsg.getEx "animation") (-ECANCELED)
  store (.gif 0 none .null)
  checked (parseTgeviMedia res) {}
  let res ← need (jmsg.getEx "document") (-EINVAL)
  -- the source drops what this call returns
  let _ ← fresh (parseTgeviFile res) {}
  checked (parseHeader jmsg) {}
  let (captionEntityC, captionEntities) ← parseCaption jmsg
  store (.gif captionEntityC captionEntities .null)

def parseEventUnknown : Fill Fault Alloc Unit := do
  store (.unknown 0 none .null)
  checked (parseHeader jmsg) {}
  let (entityC, entities) ← parseEntitiesAt jmsg "entities"
  store (.unknown entityC entities .null)
  let reply ← parseReplyTo replyTo
  store (.unknown entityC entities reply)

def parseMessageWith : Fill Fault Alloc Unit := do
  returnUnless (-ECANCELED) (parseEventText jmsg replyTo)
  returnUnless (-ECANCELED) (parseEventPhoto jmsg)
  returnUnless (-ECANCELED) (parseEventSticker jmsg replyTo)
  returnUnless (-ECANCELED) (parseEventGif jmsg)
  ignore (parseEventUnknown jmsg replyTo)

end Decoders

/-- The event of a reply that is refused is freed, and only it. -/
def parseRepliedMsg (decode : Fill Fault Alloc Unit) (ledger : Ledger) : Except Fault (ReplyPtr × Ledger) :=
  let (block, ledger) := ledger.obtain
  match call decode { ledger } with
  | .error e => .error e
  | .ok (ret, a) => if ret ≠ 0 then .ok (.null, a.ledger.free (some block)) else .ok (.node block a.own, a.ledger)

def parseMessageJsonObj (jmsg : Json) : Fill Fault Alloc Unit :=
  parseMessageWith jmsg (fun ledger =>
    match h : jmsg.getEx "reply_to_message" with
    | none => .ok (.null, ledger)
    | some res =>
      if res.isNull then .ok (.null, ledger)
      else
        have := Json.sizeOf_getEx h
        parseRepliedMsg (parseMessageJsonObj res) ledger)
termination_by sizeOf jmsg

def parseMessage (jsonObj : Json) : Fill Fault Alloc Unit := do
  let jmsg ← need (jsonObj.getEx "message") (-EINVAL)
  parseMessageJsonObj jmsg

/-! ### Destroying -/

mutual

def tgEventDestroy : TgevOwn → Ledger → Ledger
  | .zeroed, ledger => ledger
  | .unknown _ _ _, ledger => ledger
  | .text entityC entities replyTo, ledger =>
    destroyReplyToMsg replyTo (if 0 < entityC then ledger.free entities else ledger)
  | .photo photo captionEntityC captionEntities replyTo, ledger =>
    destroyReplyToMsg replyTo
      (if 0 < captionEntityC then (ledger.free photo).free captionEntities else ledger.free photo)
  | .sticker replyTo, ledger => destroyReplyToMsg replyTo ledger
  | .gif captionEntityC captionEntities replyTo, ledger =>
    destroyReplyToMsg replyTo (if 0 < captionEntityC then ledger.free captionEntities else ledger)

/-- `destroy_reply_to_msg`, where there is a reply. -/
def destroyReplyToMsg : ReplyPtr → Ledger → Ledger
  | .null, ledger => ledger
  | .node block evt, ledger => (tgEventDestroy evt ledger).free (some block)

end

/-! ### Loading -/

section Loading

variable (tokener : List UInt8 → Option Json)

/-- After an error in the update the event is destroyed. -/
def internalTgEventLoadStr (jsonStr : List UInt8) : Except Fault (ℤ × Alloc) :=
  let (ret, json) := tgEventJsonParse tokener jsonStr
  if unlikely ret < 0 then .ok (ret, {})
  else
    match call (do checked (parseUpdateId json) {}; parseMessage json) {} with
    | .error e => .error e
    | .ok (ret, a) => if ret ≠ 0 then .ok (ret, { a with ledger := tgEventDestroy a.own a.ledger }) else .ok (0, a)

/-- `tg_event_load_str` on a zeroed `struct tgev`. -/
def tgEventLoadStr (jsonStr : List UInt8) : Except Fault (ℤ × Alloc) :=
  internalTgEventLoadStr tokener (cString jsonStr ++ [0])

end Loading

end GNUWeebBot.Blocks
