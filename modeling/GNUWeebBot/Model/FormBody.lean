import GNUWeebBot.Model.HtmlText

/-!
# Bodies of requests

`urlencode` of `string.c`, and `tga_send_msg` up to its call of `tg_api_post`. The text of a
message is a C string, so its bytes are not NUL.
-/

namespace GNUWeebBot

def hexchars : List UInt8 := ascii "0123456789ABCDEF"

/-- What the loop of `urlencode` writes for one byte. -/
def urlencodeChar (raw : Bool) (c : UInt8) : List UInt8 :=
  if !raw ∧ c = 32 then [43]
  else if (c < 48 ∧ c ≠ 45 ∧ c ≠ 46) ∨ (c < 65 ∧ c > 57) ∨ (c > 90 ∧ c < 97 ∧ c ≠ 95) ∨
      (c > 122 ∧ (!raw ∨ c ≠ 126)) then
    [37, hexchars.getD (c >>> 4).toNat 0, hexchars.getD (c &&& 15).toNat 0]
  else [c]

def urlencodeLoop (raw : Bool) : List UInt8 → Buf → ℕ → Buf × ℕ
  | [], b, pos => (b, pos)
  | c :: s, b, pos => urlencodeLoop raw s (b.put pos (urlencodeChar raw c)) (pos + (urlencodeChar raw c).length)

/-- `urlencode` to an offset of a buffer. -/
def urlencode (b : Buf) (off : ℕ) (s : List UInt8) (raw : Bool) : Buf :=
  let loop := urlencodeLoop raw s b off
  loop.1.put loop.2 [0]

/-! ### `tga_send_msg` -/

inductive ParseMode
  | off
  | html
  | markdown
  deriving DecidableEq, Repr

structure TgaSendMsg where
  chatId : Int64
  replyToMsgId : UInt64
  text : List UInt8
  parseMode : ParseMode

/-- `sizeof(buf)`. -/
def sendMsgSpace : ℕ := 0x6500

def chatIdText (chatId : Int64) : List UInt8 := ascii "chat_id=" ++ ascii (toString chatId.toInt)

def replyToText (replyToMsgId : UInt64) : List UInt8 :=
  ascii "&reply_to_message_id=" ++ ascii (toString replyToMsgId.toNat)

def parseModeText : ParseMode → List UInt8
  | .off => []
  | .html => ascii "&parse_mode=html"
  | .markdown => ascii "&parse_mode=markdown"

/-- The chat and the message that is replied to: the buffer and `pos`. -/
def putAddress (b : Buf) (ctx : TgaSendMsg) : Buf × ℕ :=
  let b := snprintf b 0 sendMsgSpace (chatIdText ctx.chatId)
  let pos := (chatIdText ctx.chatId).length
  if ctx.replyToMsgId ≠ 0 then
    (snprintf b pos (sizeSub sendMsgSpace pos) (replyToText ctx.replyToMsgId),
      pos + (replyToText ctx.replyToMsgId).length)
  else (b, pos)

/-- The buffer and the `pos` after "&text=". -/
def putSendMsgHead (b : Buf) (ctx : TgaSendMsg) : Buf × ℕ :=
  let address := putAddress b ctx
  let b := address.1.put address.2 (parseModeText ctx.parseMode)
  let pos := address.2 + (parseModeText ctx.parseMode).length
  (b.put pos (ascii "&text=" ++ [0]), pos + 6)

/-- How much of the text `strnlen` counts. -/
def sendMsgTextMax (pos : ℕ) : ℕ := sizeSub (sizeSub sendMsgSpace pos / 3) 1

/-- The buffer that `tga_send_msg` sets as the body. -/
def tgaSendMsg (b : Buf) (ctx : TgaSendMsg) : Buf :=
  let head := putSendMsgHead b ctx
  urlencode head.1 head.2 (ctx.text.take (sendMsgTextMax head.2)) true

end GNUWeebBot
