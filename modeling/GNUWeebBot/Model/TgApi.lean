import GNUWeebBot.Lib.Buffer
import GNUWeebBot.Model.TgEvent

/-!
# Requests to the Telegram API

What the `tga_*` functions ask for, and what the network makes of each call. A call has its
arguments; how they are encoded in the body of the HTTP request is left out.
-/

namespace GNUWeebBot

open Fill

structure TgaResPerm where
  canSendMessages : Bool
  canSendMediaMessages : Bool
  canSendPolls : Bool
  canSendOtherMessages : Bool
  canAddWebPagePreviews : Bool
  canChangeInfo : Bool
  canInviteUsers : Bool
  canPinMessages : Bool

/-- Messages are sent in HTML mode. -/
inductive Request
  | getChatAdministrators (chatId : ℤ)
  | sendMessage (chatId : ℤ) (replyToMsgId : ℕ) (text : List UInt8)
  | kickChatMember (chatId : ℤ) (userId untilDate : ℕ) (revokeMsg : Bool)
  | unbanChatMember (chatId : ℤ) (userId : ℕ) (onlyIfBanned : Bool)
  | restrictChatMember (chatId : ℤ) (userId untilDate : ℕ) (permissions : TgaResPerm)
  | pinChatMessage (chatId : ℤ) (messageId : ℕ) (disableNotification : Bool)
  | unpinChatMessage (chatId : ℤ) (messageId : ℕ)
  | deleteMessage (chatId : ℤ) (messageId : ℕ)

/-- What `tg_api_post` returns, and the body it leaves. A body that is not JSON, and the JSON null,
is `.null`, as `json_tokener_parse` returns `NULL` for both; `tg_api_post` allocates the body before
it sends anything. -/
structure Response where
  ret : ℤ
  body : Option Json
  allocated : ret = 0 → body.isSome

/-- `respond` is how the API behaves: the response to each call in turn. `junk` is what a new buffer
holds. -/
structure World where
  respond : ℕ → Response
  strerror : ℤ → List UInt8
  junk : ℕ → UInt8
  calls : List (Request × Response)

/-- A `tga_*` call. -/
def post (req : Request) : Fill Fault World Response := fun w =>
  let r := w.respond w.calls.length
  .next r { w with calls := w.calls ++ [(req, r)] }

/-- `PRERF` with `PREAR(errno)`. -/
def prerf (strerror : ℤ → List UInt8) (errno : ℤ) : List UInt8 :=
  ascii "(errno=" ++ ascii (toString errno) ++ ascii ") " ++ strerror errno

/-- The most that `tga_send_msg` reads of a text, which it encodes in a buffer of 0x6500 bytes. -/
def sendMsgMax : ℕ := 0x6500 / 3

/-! ### The administrators of a chat -/

structure TgaUser where
  id : ℕ := 0
  firstName : CharPtr := none
  username : CharPtr := none
  isBot : Bool := false
  lang : List UInt8 := []

inductive ChmemStatus
  | nopStatus
  | creator
  | administrator
  | member
  | restricted
  | kicked
  deriving DecidableEq, Repr

structure TgaChatMember where
  user : TgaUser := {}
  status : ChmemStatus := .nopStatus

def mapToStatus (sta : CharPtr) : ChmemStatus :=
  match sta with
  | none => .nopStatus
  | some sta =>
    if (ascii "creator").isPrefixOf sta then .creator
    else if (ascii "administrator").isPrefixOf sta then .administrator
    else if (ascii "member").isPrefixOf sta then .member
    else if (ascii "restricted").isPrefixOf sta then .restricted
    -- the source maps "left" so
    else if (ascii "left").isPrefixOf sta then .creator
    else if (ascii "kicked").isPrefixOf sta then .kicked
    else .nopStatus

/-- A key whose value is not null. -/
def Json.getNonNull (jso : Json) (key : String) : Option Json := (jso.getEx key).filter (fun res => !res.isNull)

/-- One round of the loop of `parse_tga_admins`; `none` where it does not count the element. -/
def parseTgaMember (subres : Json) : Option TgaChatMember := do
  let user ← subres.getNonNull "user"
  let id ← user.getNonNull "id"
  pure
    { user :=
        { id := id.getUint64
          isBot := ((user.getNonNull "is_bot").map Json.getBoolean).getD false
          firstName := (user.getNonNull "first_name").bind Json.getString
          username := (user.getNonNull "username").bind Json.getString
          lang := (((user.getNonNull "lang").bind Json.getString).map (fun lang => lang.take 3)).getD [] }
      status := ((subres.getNonNull "status").map (fun tmp => mapToStatus tmp.getString)).getD .nopStatus }

/-- The members that are reported are as many as the array has elements: zeroed ones after those that
were parsed. -/
def parseTgaAdmins (obj : Json) : Fill Fault (List TgaChatMember) Unit := do
  let ok ← need (obj.getNonNull "ok") (-EINVAL)
  if !ok.getBoolean then exit (-EBADMSG)
  let res ← need (obj.getNonNull "result") (-EINVAL)
  match res.array? with
  | none => crash .arrayLength
  | some elems =>
    let members := elems.filterMap parseTgaMember
    modify fun _ => members ++ List.replicate (elems.length - members.length) ({} : TgaChatMember)

end GNUWeebBot
