import GNUWeebBot.Lib.Dispatch
import GNUWeebBot.Model.Admin
import GNUWeebBot.Model.JsonFormat
import GNUWeebBot.Model.Translate

/-!
# The modules and the event handler

`debug.c`, `standard.c`, the rest of `translate.c`, and `gwbot_event_handler` with the table of the modules. What
`json_tokener_parse` makes of a C string is a parameter; it is `.null` where that returns `NULL`.
-/

namespace GNUWeebBot

open Fill

/-- What the bot sends. The messages of `api` are in HTML mode. -/
inductive BotCall
  | api (request : Request) (r : Response)
  | plainMessage (chatId : ℤ) (replyToMsgId : ℕ) (text : List UInt8) (r : Response)
  | googleTranslate (payload : List UInt8)

/-- A transfer from the translation service. A chunk is an object in memory. -/
structure Fetched where
  chunks : List (List UInt8)
  ok : Bool
  small : ∀ data ∈ chunks, data.length < 2 ^ 63

/-- `fetch` is `none` where `curl_easy_init` fails. -/
structure BotWorld where
  respond : ℕ → Response
  fetch : List UInt8 → Option Fetched
  strerror : ℤ → List UInt8
  junk : ℕ → UInt8
  calls : List BotCall

namespace BotWorld

/-- A `tga_*` call. -/
def called (w : BotWorld) (call : Response → BotCall) : BotWorld :=
  { w with calls := w.calls ++ [call (w.respond w.calls.length)] }

/-- The world of a module that only uses the API. -/
def toWorld (w : BotWorld) : World := ⟨fun n => w.respond (w.calls.length + n), w.strerror, w.junk, []⟩

def addCalls (t : World) (w : BotWorld) : BotWorld :=
  { w with calls := w.calls ++ t.calls.map (fun c => .api c.1 c.2) }

end BotWorld

/-- `tge_get_text`. -/
def Tgev.text (evt : Tgev) : CharPtr :=
  match evt.msg with
  | .text etext => etext.text
  | .photo ephoto => ephoto.caption
  | .gif egif => egif.caption
  | .zeroed | .sticker _ | .unknown _ => none

/-! ### `debug.c` -/

namespace Debug

/-- `sizeof(reply_text)`. -/
def replySize : ℕ := 0x9000

/-- `JSON_C_TO_STRING_PRETTY | JSON_C_TO_STRING_NOSLASHESCAPE`. -/
def jsonFlags : ToStringFlags := ⟨false, true, false, true⟩

/-- The sizes of the two literals count their terminators. -/
def hlen : ℕ := (replySize - 6 - 7) / 6

/-- `reply_text`. -/
def putReply (b : Buf) (jsonPretty : List UInt8) : Buf :=
  let b := b.put 0 (ascii "<pre>")
  let escaped := htmlspecialchars b 5 hlen ((cString jsonPretty).take hlen)
  let at' := (5 + escaped.2 - 1).toNat
  (escaped.1.put at' (ascii "</pre>")).put (at' + 6) [0]

/-- `send_debug_message` only logs what the call returns. -/
def sendDebugMessage (evt : TgevText Tgev) (text : List UInt8) : Fill Fault BotWorld Unit :=
  modify fun w => w.called (.api (.sendMessage evt.header.chat.id evt.header.msgId text))

def entry (jsonTokenerParse : List UInt8 → Json) (jsonStr : List UInt8) (evt : TgevText Tgev) : Fill Fault BotWorld ℤ :=
  match evt.text with
  | none => pure (-ECANCELED)
  | some text =>
    if !(ascii "/debug").isPrefixOf (cString text) then pure (-ECANCELED)
    else do
      let b ← read (fun w => Buf.fresh w.junk)
      let reply := putReply b ((jsonTokenerParse jsonStr).toJsonStringExt jsonFlags 0)
      sendDebugMessage evt (reply.cstr 0 replySize)
      pure 0

end Debug

/-! ### `standard.c` -/

def standardEntry (_ : TgevText Tgev) : Fill Fault BotWorld ℤ := pure (-ECANCELED)

/-! ### `translate.c` -/

namespace Translate

/-- JSON is longer. -/
def CURL_BUFFER_SIZE : ℕ := TEXT_BUFFER_SIZE + 0x1000

structure TrWr where
  len : ℕ
  resText : Buf

def translateWriteCallback (mem : TrWr) (data : List UInt8) : ℕ × TrWr :=
  let addLen := data.length
  if (addLen + mem.len) % 2 ^ 64 ≥ CURL_BUFFER_SIZE - 1 then (0, mem)
  else (addLen, ⟨mem.len + addLen, mem.resText.put mem.len data⟩)

/-- curl ends the transfer at a chunk that the callback does not take as a whole. -/
def passChunks (mem : TrWr) : List (List UInt8) → Bool × TrWr
  | [] => (true, mem)
  | data :: chunks =>
    let taken := translateWriteCallback mem data
    if taken.1 = data.length then passChunks taken.2 chunks else (false, taken.2)

def fetchApi (mem : TrWr) (curl : Option Fetched) : ℤ × TrWr :=
  match curl with
  | none => (-ENOMEM, mem)
  | some fetched =>
    let passed := passChunks mem fetched.chunks
    if passed.1 && fetched.ok then (0, { passed.2 with resText := passed.2.resText.put passed.2.len [0] })
    else (-EBADMSG, passed.2)

/-- `reply_text`, for the value of the response. -/
def replyText (obj : Json) : List UInt8 :=
  if obj.isNull then ascii "Error: Invalid JSON data from API"
  else
    match obj.getEx "result" with
    | some res => res.getString.getD (ascii "Error: `result` is NULL")
    | none =>
      match obj.getEx "error" with
      | some res => res.getString.getD (ascii "Error: unknown error!")
      | none => ascii "Error: unknown error!"

/-- `send_reply_text` only logs what the call returns. -/
def sendReplyText (evt : Tgev) (text : List UInt8) : Fill Fault BotWorld Unit :=
  modify fun w => w.called (.plainMessage evt.chatId evt.header.msgId text)

def handleTranslateModule (jsonTokenerParse : List UInt8 → Json) (payload : List UInt8) (evt : Tgev) :
    Fill Fault BotWorld ℤ := do
  let curl ← read (fun w => w.fetch payload)
  modify fun w => { w with calls := w.calls ++ [.googleTranslate payload] }
  let resText ← read (fun w => Buf.fresh w.junk)
  let (ret, mem) := fetchApi ⟨0, resText⟩ curl
  if ret ≠ 0 then pure ret
  else
    sendReplyText evt (cString (replyText (jsonTokenerParse (mem.resText.cstr 0 CURL_BUFFER_SIZE))))
    pure 0

/-- What `tge_get_text` gives the parser is a C string. -/
def getText (evt : Tgev) : CharPtr := evt.text.map cString

/-- `do_translate`, which the entry calls. -/
def doTranslate (jsonTokenerParse : List UInt8 → Json) (evt : TgevText Tgev) : Fill Fault BotWorld ℤ :=
  match evt.text with
  | none => pure (-ECANCELED)
  | some text => do
    let payload ← read (fun w => Buf.fresh w.junk)
    let parsed := parseCommand Tgev.replyTo getText (cString text) ⟨payload, 0, { msg := .text evt }⟩
    if parsed.1 ≠ 0 then pure parsed.1
    else handleTranslateModule jsonTokenerParse (parsed.2.payload.read 0 parsed.2.payloadLen) parsed.2.evt

end Translate

/-! ### The event handler -/

/-- The entry of `admin.c`. -/
def adminModuleEntry (evt : TgevText Tgev) : Fill Fault BotWorld ℤ :=
  part BotWorld.toWorld BotWorld.addCalls (adminEntry evt)

def TGEV_UNKNOWN : ℕ := 1 <<< 0
def TGEV_TEXT : ℕ := 1 <<< 1
def TGEV_PHOTO : ℕ := 1 <<< 2
def TGEV_STICKER : ℕ := 1 <<< 3
def TGEV_GIF : ℕ := 1 <<< 4

/-- The type of an event; zero where no decoder has chosen one. -/
def Tgev.type (evt : Tgev) : ℕ :=
  match evt.msg with
  | .zeroed => 0
  | .text _ => TGEV_TEXT
  | .photo _ => TGEV_PHOTO
  | .sticker _ => TGEV_STICKER
  | .gif _ => TGEV_GIF
  | .unknown _ => TGEV_UNKNOWN

structure ModuleEntry where
  entry : Option (TgevText Tgev → Fill Fault BotWorld ℤ)
  eventMask : ℕ

/-- `GWMOD_REG_END`, which is an element of the table too. -/
def gwmodRegEnd : ModuleEntry := ⟨none, 0⟩

section Handler

variable (jsonTokenerParse : List UInt8 → Json)

def modTbl (jsonStr : List UInt8) : List ModuleEntry :=
  [⟨some (Debug.entry jsonTokenerParse jsonStr), TGEV_TEXT ||| TGEV_PHOTO⟩, ⟨some standardEntry, TGEV_TEXT ||| TGEV_PHOTO⟩,
    ⟨some (Translate.doTranslate jsonTokenerParse), TGEV_TEXT ||| TGEV_PHOTO⟩, ⟨some adminModuleEntry, TGEV_TEXT ||| TGEV_PHOTO⟩,
    gwmodRegEnd]

/-- The loop of the handler. -/
def runModules (evtIn : ℕ) (evt : TgevText Tgev) : List ModuleEntry → ℤ → Fill Fault BotWorld ℤ
  | [], ret => pure ret
  | mod :: mods, ret =>
    if mod.eventMask &&& evtIn = 0 then runModules evtIn evt mods ret
    else
      match mod.entry with
      | none => runModules evtIn evt mods ret
      | some entry => do
        let ret ← entry evt
        if ret ≠ -ECANCELED then pure ret else runModules evtIn evt mods ret

/-- An event as its getters show it. -/
def Tgev.asText (evt : Tgev) : TgevText Tgev :=
  match evt.msg with
  | .text etext => etext
  | _ => { header := evt.header, text := evt.text, replyTo := evt.replyTo }

/-- What the modules do with a photo whose caption has entities is a parameter: `tge_get_reply_to` reads the count of the
entities of such a photo. `tokener` is as for `tgEventLoadStr`. -/
def gwbotEventHandler (tokener : List UInt8 → Option Json) (misread : TgevPhoto Tgev → Fill Fault BotWorld ℤ)
    (jsonStr : List UInt8) : Fill Fault BotWorld ℤ :=
  match tgEventLoadStr tokener jsonStr with
  | .error e => crash e
  | .ok (ret, evt) =>
    if ret ≠ 0 then pure ret
    else
      match evt.msg with
      | .photo ephoto =>
        if ephoto.captionEntityC % 2 ^ 16 ≠ 0 then misread ephoto
        else runModules evt.type evt.asText (modTbl jsonTokenerParse jsonStr) 0
      | _ => runModules evt.type evt.asText (modTbl jsonTokenerParse jsonStr) 0

end Handler

end GNUWeebBot
