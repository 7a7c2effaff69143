import GNUWeebBot.Model.FormBody
import GNUWeebBot.Model.TgApi

/-!
# The bodies of the other requests

The `tga_*` functions of `lib/tg_api/` up to their call of `tg_api_post`, without `tga_send_msg`. Each gives the
buffer that it sets as the body.
-/

namespace GNUWeebBot

/-- `%PRIu64`. -/
def decimalU64 (n : UInt64) : List UInt8 := ascii (toString n.toNat)

/-- `%hhu` of a `bool`. -/
def decimalBool (b : Bool) : List UInt8 := if b then ascii "1" else ascii "0"

/-- `%s` of the text that is chosen for a `bool`. -/
def jsonBool (b : Bool) : List UInt8 := if b then ascii "true" else ascii "false"

def messageIdText (messageId : UInt64) : List UInt8 := ascii "&message_id=" ++ decimalU64 messageId

def userIdText (userId : UInt64) : List UInt8 := ascii "&user_id=" ++ decimalU64 userId

structure TgaDeleteMsg where
  chatId : Int64
  messageId : UInt64

/-- `time_t` is 64 bits wide. -/
structure TgaKickCm where
  chatId : Int64
  userId : UInt64
  untilDate : Int64
  revokeMsg : Bool

structure TgaUnbanCm where
  chatId : Int64
  userId : UInt64
  onlyIfBanned : Bool

structure TgaPinCm where
  chatId : Int64
  messageId : UInt64
  disableNotification : Bool

structure TgaUnpinCm where
  chatId : Int64
  messageId : UInt64

structure TgaRestrictCm where
  chatId : Int64
  userId : UInt64
  untilDate : Int64
  permissions : TgaResPerm

def tgaGetChatAdmins (b : Buf) (chatId : Int64) : Buf := snprintf b 0 64 (chatIdText chatId)

def tgaDeleteMsg (b : Buf) (ctx : TgaDeleteMsg) : Buf :=
  snprintf b 0 128 (chatIdText ctx.chatId ++ messageIdText ctx.messageId)

def tgaUnbanChatMember (b : Buf) (ctx : TgaUnbanCm) : Buf :=
  snprintf b 0 256 (chatIdText ctx.chatId ++ userIdText ctx.userId ++ ascii "&only_if_banned=" ++ decimalBool ctx.onlyIfBanned)

def tgaPinChatMsg (b : Buf) (ctx : TgaPinCm) : Buf :=
  snprintf b 0 256 (chatIdText ctx.chatId ++ messageIdText ctx.messageId ++ ascii "&disable_notification=" ++
    decimalBool ctx.disableNotification)

def tgaUnpinChatMsg (b : Buf) (ctx : TgaUnpinCm) : Buf :=
  snprintf b 0 128 (chatIdText ctx.chatId ++ messageIdText ctx.messageId)

def untilDateText (untilDate : Int64) : List UInt8 := ascii "&until_date=" ++ decimalU64 untilDate.toUInt64

/-- The buffer and `pos` after the date. -/
def putKicked (b : Buf) (ctx : TgaKickCm) : Buf × ℕ :=
  let text := chatIdText ctx.chatId ++ userIdText ctx.userId
  let b := snprintf b 0 512 text
  let pos := text.length
  if ctx.untilDate ≠ 0 then
    (snprintf b pos (sizeSub 512 pos) (untilDateText ctx.untilDate), pos + (untilDateText ctx.untilDate).length)
  else (b, pos)

def tgaKickChatMember (b : Buf) (ctx : TgaKickCm) : Buf :=
  let kicked := putKicked b ctx
  if !ctx.revokeMsg then kicked.1.put kicked.2 (ascii "&revoke_messages=0" ++ [0]) else kicked.1

/-- The JSON template. -/
def restrictText (ctx : TgaRestrictCm) : List UInt8 :=
  let perm := ctx.permissions
  ascii "\x7b" ++
    ascii "\"user_id\":" ++ decimalU64 ctx.userId ++ ascii "," ++
    ascii "\"chat_id\":" ++ ascii (toString ctx.chatId.toInt) ++ ascii "," ++
    ascii "\"until_date\":" ++ decimalU64 ctx.untilDate.toUInt64 ++ ascii "," ++
    ascii "\"permissions\":\x7b" ++
      ascii "\"can_send_messages\":" ++ jsonBool perm.canSendMessages ++ ascii "," ++
      ascii "\"can_send_media_messages\":" ++ jsonBool perm.canSendMediaMessages ++ ascii "," ++
      ascii "\"can_send_polls\":" ++ jsonBool perm.canSendPolls ++ ascii "," ++
      ascii "\"can_send_other_messages\":" ++ jsonBool perm.canSendOtherMessages ++ ascii "," ++
      ascii "\"can_add_web_page_previews\":" ++ jsonBool perm.canAddWebPagePreviews ++ ascii "," ++
      ascii "\"can_change_info\":" ++ jsonBool perm.canChangeInfo ++ ascii "," ++
      ascii "\"can_invite_users\":" ++ jsonBool perm.canInviteUsers ++ ascii "," ++
      ascii "\"can_pin_messages\":" ++ jsonBool perm.canPinMessages ++
    ascii "\x7d" ++
  ascii "\x7d"

def tgaRestrictChatMember (b : Buf) (ctx : TgaRestrictCm) : Buf := snprintf b 0 512 (restrictText ctx)

/-! ### The requests whose body is a form -/

inductive FormCall
  | getChatAdmins (chatId : Int64)
  | deleteMsg (ctx : TgaDeleteMsg)
  | kickChatMember (ctx : TgaKickCm)
  | unbanChatMember (ctx : TgaUnbanCm)
  | pinChatMsg (ctx : TgaPinCm)
  | unpinChatMsg (ctx : TgaUnpinCm)

namespace FormCall

/-- `sizeof(buf)`. -/
def size : FormCall → ℕ
  | getChatAdmins _ => 64
  | deleteMsg _ | unpinChatMsg _ => 128
  | unbanChatMember _ | pinChatMsg _ => 256
  | kickChatMember _ => 512

def putBody (b : Buf) : FormCall → Buf
  | getChatAdmins chatId => tgaGetChatAdmins b chatId
  | deleteMsg ctx => tgaDeleteMsg b ctx
  | kickChatMember ctx => tgaKickChatMember b ctx
  | unbanChatMember ctx => tgaUnbanChatMember b ctx
  | pinChatMsg ctx => tgaPinChatMsg b ctx
  | unpinChatMsg ctx => tgaUnpinChatMsg b ctx

def method : FormCall → List UInt8
  | getChatAdmins _ => ascii "getChatAdministrators"
  | deleteMsg _ => ascii "deleteMessage"
  | kickChatMember _ => ascii "kickChatMember"
  | unbanChatMember _ => ascii "unbanChatMember"
  | pinChatMsg _ => ascii "pinChatMessage"
  | unpinChatMsg _ => ascii "unpinChatMessage"

end FormCall

end GNUWeebBot
