import GNUWeebBot.Model.HtmlText
import GNUWeebBot.Model.TgApi

/-!
# The admin module, for text events

The functions of `admin.c` under a world that answers their requests. `evt` is the text member of
the event; `tge_get_reply_to` reads its own `reply_to` for this type.
-/

namespace GNUWeebBot

open Fill

def RTB_SIZE : ℕ := 0x400

inductive ModCmd
  | nop
  | ban
  | sban
  | unban
  | kick
  | skick
  | warn
  | mute
  | tmute
  | unmute
  | pin
  | unpin
  | delete
  | report
  | delvote
  deriving DecidableEq, Repr

def ModCmd.bits : ModCmd → ℕ
  | .nop => 0
  | .ban => 1 <<< 0
  | .sban => 1 <<< 1
  | .unban => 1 <<< 2
  | .kick => 1 <<< 3
  | .skick => 1 <<< 4
  | .warn => 1 <<< 5
  | .mute => 1 <<< 6
  | .tmute => 1 <<< 7
  | .unmute => 1 <<< 8
  | .pin => 1 <<< 9
  | .unpin => 1 <<< 10
  | .delete => 1 <<< 11
  | .report => 1 <<< 12
  | .delvote => 1 <<< 13

/-- Commands that require admin privilege. -/
def ADMIN_CMD_BITS : ℕ :=
  ModCmd.ban.bits ||| ModCmd.sban.bits ||| ModCmd.unban.bits ||| ModCmd.kick.bits ||| ModCmd.skick.bits |||
    ModCmd.warn.bits ||| ModCmd.mute.bits ||| ModCmd.tmute.bits ||| ModCmd.unmute.bits ||| ModCmd.pin.bits |||
    ModCmd.unpin.bits ||| ModCmd.delete.bits

def sudoers : List ℕ := [133862899, 243692601, 701123895, 1213668471]

def checkIsSudoer (userId : ℕ) : Bool := sudoers.any (fun id => id == userId)

section Commands

variable (evt : TgevText Tgev)

/-- The text is a C string; `send_reply` only logs what the call returns. -/
def sendReply (chatId : ℤ) (text : List UInt8) (msgId : ℕ) : Fill Fault World Unit := do
  let _ ← post (.sendMessage chatId msgId text)
  pure ()

/-- The C string in a buffer. -/
def replyString (b : Buf) : List UInt8 := b.cstr 0 sendMsgMax

def epermText : List UInt8 := ascii "Error: Operation not permitted (errno=EPERM) (code=1)"

/-! ### Privileges -/

/-- The text of `snprintf(reply_text, size, "Error: name(): " PRERF, PREAR(errno))`. -/
def errorLine (strerror : ℤ → List UInt8) (size : ℕ) (name : String) (errno : ℤ) : List UInt8 :=
  (ascii "Error: " ++ ascii name ++ ascii "(): " ++ prerf strerror errno).take (size - 1)

/-- The list of administrators that a response has, or the error with its text. -/
def chatAdmins (strerror : ℤ → List UInt8) (size : ℕ) (r : Response) :
    Fill Fault World (ℤ × List UInt8 × List TgaChatMember) := do
  if r.ret ≠ 0 then pure (r.ret, errorLine strerror size "tga_get_chat_admins" (-r.ret), [])
  else
    match r.body with
    | none => pure (-EINVAL, errorLine strerror size "tge_get_res_body" EINVAL, [])
    | some jsonObj =>
      if jsonObj.isNull then pure (-EINVAL, errorLine strerror size "json_tokener_parse" EINVAL, [])
      else
        let (ret, admins) ← fresh (parseTgaAdmins jsonObj) []
        if ret ≠ 0 then pure (ret, errorLine strerror size "parse_tga_admins" (-ret), [])
        else pure (0, [], admins)

/-- What the loop over the administrators makes of the code. -/
def lookupCode (ret : ℤ) (admins : List TgaChatMember) (userId : ℕ) : ℤ :=
  if ret ≠ 0 then ret else if admins.any (fun admin => admin.user.id == userId) then 0 else -EPERM

def lookupTgPrivilege (userId : ℕ) (chatId : ℤ) : Fill Fault World ℤ := do
  let r ← post (.getChatAdministrators chatId)
  let strerror ← read World.strerror
  let (ret, text, admins) ← chatAdmins strerror 128 r
  let ret := lookupCode ret admins userId
  if ret ≠ 0 ∧ ret ≠ -EPERM then
    sendReply evt.header.chat.id text evt.header.msgId
    pure ret
  else pure ret

def isPrivilegedUser (userId : ℕ) : Fill Fault World Bool := do
  if checkIsSudoer userId then pure true
  else
    let ret ← lookupTgPrivilege evt userId evt.header.chat.id
    if ret = 0 then pure true
    else if ret = -EPERM then
      sendReply evt.header.chat.id epermText evt.header.msgId
      pure false
    else pure false

/-! ### Requests with their outcome -/

def errParse : List UInt8 := ascii "Error: Cannot parse JSON response from API"

/-- `process_json_msg`: whether the API accepted, and the error in the buffer if not. -/
def processJsonMsg (jsonObj : Json) (b : Buf) : Bool × Buf :=
  if jsonObj.isNull then (false, b.put 0 (errParse ++ [0]))
  else
    match jsonObj.getNonNull "ok" with
    | none => (false, b.put 0 (ascii "Cannot find \"ok\" key from JSON API" ++ [0]))
    | some res =>
      if res.getBoolean then (true, b)
      else
        match jsonObj.optString "description" with
        | none => (false, b.put 0 (errParse ++ [0]))
        | some desc => (false, snprintf b 0 RTB_SIZE (ascii "Error: " ++ desc))

/-- The wrappers differ in the function they call; `ok` stays true where that returns an error. -/
def doRequest (name : String) (req : Request) (b : Buf) : Fill Fault World (Bool × Buf) := do
  let r ← post req
  let strerror ← read World.strerror
  if r.ret ≠ 0 then
    pure (true, snprintf b 0 RTB_SIZE (ascii "Error: " ++ ascii name ++ ascii "(): " ++ prerf strerror (-r.ret)))
  else
    pure (processJsonMsg (r.body.getD .null) b)

def doKick (chatId : ℤ) (userId untilDate : ℕ) (revokeMsg : Bool) : Buf → Fill Fault World (Bool × Buf) :=
  doRequest "tga_kick_chat_member" (.kickChatMember chatId userId untilDate revokeMsg)

def doUnban (chatId : ℤ) (userId : ℕ) (onlyIfBanned : Bool) : Buf → Fill Fault World (Bool × Buf) :=
  doRequest "tga_unban_chat_member" (.unbanChatMember chatId userId onlyIfBanned)

def doMute (chatId : ℤ) (userId untilDate : ℕ) (permissions : TgaResPerm) : Buf → Fill Fault World (Bool × Buf) :=
  doRequest "tga_restrict_chat_member" (.restrictChatMember chatId userId untilDate permissions)

def doPin (chatId : ℤ) (messageId : ℕ) (disableNotification : Bool) : Buf → Fill Fault World (Bool × Buf) :=
  doRequest "tga_pin_chat_msg" (.pinChatMessage chatId messageId disableNotification)

def doUnpin (chatId : ℤ) (messageId : ℕ) : Buf → Fill Fault World (Bool × Buf) :=
  doRequest "tga_unpin_chat_msg" (.unpinChatMessage chatId messageId)

def doDelMsg (chatId : ℤ) (messageId : ℕ) : Buf → Fill Fault World (Bool × Buf) :=
  doRequest "tga_delete_msg" (.deleteMessage chatId messageId)

/-- A new `char reply_text[]`. -/
def newReplyText : Fill Fault World Buf := read (fun w => Buf.fresh w.junk)

/-! ### Replies that announce success -/

/-- The link to the target, then `text`. -/
def putLinked (b : Buf) (id : ℕ) (first : List UInt8) (last : CharPtr) (text : List UInt8) : Buf × ℕ × ℕ :=
  let sps := sizeSub RTB_SIZE 18
  let link := genNameLink b sps id first last
  (link.1.put link.2 (text ++ [0]), link.2 + text.length, sizeSub sps link.2)

/-- The name of the target, then `text`; `other` where the target has no sender. What is kept is the
buffer, the end of the text and the space that is left. -/
def putTarget (b : Buf) (fr : Option TgeviFrom) (text other : List UInt8) (otherSps : ℕ) :
    Fill Fault World (Buf × ℕ × ℕ) :=
  match fr with
  | none => pure (b.put 0 (other ++ [0]), other.length, sizeSub RTB_SIZE otherSps)
  | some fr =>
    match fr.firstName with
    | none => crash .strnlenNull
    | some first => pure (putLinked b fr.id first fr.lastName text)

/-- The reply of `kick_or_unban` and `mute_or_unmute`. -/
def putHasBeen (b : Buf) (replyTo : Tgev) (verb : String) (reason : CharPtr) : Fill Fault World Buf := do
  let text := ascii " has been " ++ ascii verb
  let (b, pos, sps) ← putTarget b replyTo.sender? text (ascii "(unknown) has been " ++ ascii verb) 0
  pure (putReason b pos sps reason)

/-- The reply of `exec_adm_cmd_ban`. -/
def putBanned (b : Buf) (replyTo : Tgev) (reason : CharPtr) : Fill Fault World Buf := do
  let (b, pos, sps) ← putTarget b replyTo.sender? (ascii " has been banned!") (ascii "Banned success!") 15
  pure (putReason b pos sps reason)

/-! ### Commands -/

/-- The success reply where there is a replied-to message; without one the buffer is left as it is. -/
def announce (put : Buf → Tgev → Fill Fault World Buf) (b : Buf) : Fill Fault World Buf :=
  match evt.replyTo with
  | none => pure b
  | some replyTo => put b replyTo

def kickOrUnban (targetUid : ℕ) (reason : CharPtr) (isUnban silent : Bool) : Fill Fault World ℤ := do
  let b ← newReplyText
  let (tmp, b) ← doUnban evt.header.chat.id targetUid isUnban b
  if !tmp then
    sendReply evt.header.chat.id (replyString b) evt.header.msgId
    pure 0
  else if silent then pure 0
  else
    let b ← announce evt (fun b replyTo => putHasBeen b replyTo (if isUnban then "unbanned!" else "kicked!") reason) b
    sendReply evt.header.chat.id (replyString b) evt.header.msgId
    pure 0

def permissionsOf (allow : Bool) : TgaResPerm :=
  { canSendMessages := allow
    canSendMediaMessages := allow
    canSendPolls := allow
    canSendOtherMessages := allow
    canAddWebPagePreviews := allow
    canChangeInfo := allow
    canInviteUsers := allow
    canPinMessages := allow }

def muteOrUnmute (targetUid : ℕ) (reason : CharPtr) (isUnmute : Bool) : Fill Fault World ℤ := do
  let b ← newReplyText
  let (tmp, b) ← doMute evt.header.chat.id targetUid 0 (permissionsOf isUnmute) b
  if !tmp then
    sendReply evt.header.chat.id (replyString b) evt.header.msgId
    pure 0
  else
    let b ← announce evt (fun b replyTo => putHasBeen b replyTo (if isUnmute then "unmuted!" else "muted!") reason) b
    sendReply evt.header.chat.id (replyString b) evt.header.msgId
    pure 0

/-- Delete the command and the replied message. -/
def deleteBoth (b : Buf) : Fill Fault World ℤ := do
  let (tmp, b) ← doDelMsg evt.header.chat.id evt.header.msgId b
  if !tmp then
    sendReply evt.header.chat.id (replyString b) evt.header.msgId
    pure 0
  else
    match evt.replyTo with
    | none => pure 0
    | some replyTo =>
      let (tmp, b) ← doDelMsg evt.header.chat.id replyTo.header.msgId b
      if !tmp then
        sendReply evt.header.chat.id (replyString b) evt.header.msgId
        pure 0
      else pure 0

def execAdmCmdBan (targetUid : ℕ) (reason : CharPtr) (silent : Bool) : Fill Fault World ℤ := do
  let b ← newReplyText
  let (tmp, b) ← doKick evt.header.chat.id targetUid 0 true b
  if !tmp then
    sendReply evt.header.chat.id (replyString b) evt.header.msgId
    pure 0
  else if silent then deleteBoth evt b
  else
    let b ← announce evt (fun b replyTo => putBanned b replyTo reason) b
    sendReply evt.header.chat.id (replyString b) evt.header.msgId
    pure 0

def execAdmCmdUnban (targetUid : ℕ) (reason : CharPtr) : Fill Fault World ℤ :=
  kickOrUnban evt targetUid reason true false

def execAdmCmdKick (targetUid : ℕ) (reason : CharPtr) (silent : Bool) : Fill Fault World ℤ := do
  let ret ← kickOrUnban evt targetUid reason false silent
  if ret = 0 ∧ silent then
    let b ← newReplyText
    deleteBoth evt b
  else pure ret

def execAdmCmdMute (targetUid : ℕ) (reason : CharPtr) : Fill Fault World ℤ :=
  muteOrUnmute evt targetUid reason false

def execAdmCmdUnmute (targetUid : ℕ) (reason : CharPtr) : Fill Fault World ℤ :=
  muteOrUnmute evt targetUid reason true

/-- The commands on the replied-to message: a hint where it has no id, else the requests and their
outcome. -/
def execOnReplied (hint : String) (request : ℕ → Buf → Fill Fault World (Bool × Buf)) (done : String) :
    Fill Fault World ℤ := do
  match evt.replyTo with
  | none => crash .nullDeref
  | some replyTo =>
    let replyToMsgId := replyTo.header.msgId
    if replyToMsgId = 0 then
      sendReply evt.header.chat.id (ascii hint) evt.header.msgId
      pure 0
    else
      let b ← newReplyText
      let (tmp, b) ← request replyToMsgId b
      let b := if !tmp then b
        else snprintf b 0 RTB_SIZE (ascii "Message " ++ ascii (toString replyToMsgId) ++ ascii done)
      sendReply evt.header.chat.id (replyString b) evt.header.msgId
      pure 0

def execAdmCmdPin : Fill Fault World ℤ :=
  execOnReplied evt "Please reply to message to be pinned!" (fun id => doPin evt.header.chat.id id false)
    " has been pinned!"

def execAdmCmdUnpin : Fill Fault World ℤ :=
  execOnReplied evt "Please reply to message to be unpinned!" (fun id => doUnpin evt.header.chat.id id)
    " has been unpinned!"

/-- The hint is the one of `unpin` in the source too. -/
def execAdmCmdDelete : Fill Fault World ℤ :=
  execOnReplied evt "Please reply to message to be unpinned!"
    (fun id b => do
      let (tmp, b) ← doDelMsg evt.header.chat.id id b
      if !tmp then pure (false, b) else doDelMsg evt.header.chat.id evt.header.msgId b)
    " has been deleted!"

/-- The line of one administrator in `construct_report_reply`: the buffer, the end of the text and
the space that is left. -/
def putCc (b : Buf) (pos sps id : ℕ) (fn : List UInt8) : Buf × ℕ × ℕ :=
  let sps := sizeSub sps 6
  let link := ascii "Cc: <a href=\"tg://user?id=" ++ ascii (toString id) ++ ascii "\">"
  let b := snprintf b pos sps link
  let pos := pos + link.length
  let sps := sizeSub sps link.length
  let name := htmlspecialchars b pos sps (fn.take 0xff)
  let tmp := if name.2 ≠ 0 then name.2 - 1 else name.2
  let pos := (pos + tmp).toNat
  (name.1.put pos (ascii "</a>\n" ++ [0]), pos + 5, sizeAdd sps (-tmp))

def putReported (b : Buf) (pos sps : ℕ) (user : TgaUser) : Fill Fault World (Buf × ℕ × ℕ) :=
  if user.isBot then pure (b, pos, sps)
  else
    match user.firstName with
    | none => crash .strnlenNull
    | some fn => pure (putCc b pos sps user.id fn)

def putReportedAll (b : Buf) (pos sps : ℕ) : List TgaChatMember → Fill Fault World Buf
  | [] => pure b
  | admin :: admins => do
    let (b, pos, sps) ← putReported b pos sps admin.user
    putReportedAll b pos sps admins

def constructReportReply (b : Buf) (sps : ℕ) (admins : List TgaChatMember) : Fill Fault World Buf :=
  putReportedAll (b.put 0 (ascii "Reported to admins!\n" ++ [0])) 20 (sizeSub sps 20) admins

/-- The text of a report, or the error of the lookup. -/
def reportText (b : Buf) (ret : ℤ) (text : List UInt8) (admins : List TgaChatMember) : Fill Fault World Buf :=
  if ret ≠ 0 then pure (b.put 0 (text ++ [0])) else constructReportReply b 4096 admins

/-- The report is sent as a reply to the replied-to message where there is one, in the chat of that
message. -/
def reportPlace : ℤ × ℕ :=
  match evt.replyTo with
  | none => (evt.header.chat.id, evt.header.msgId)
  | some replyTo => (replyTo.chatId, replyTo.header.msgId)

def execUsrCmdReport : Fill Fault World ℤ := do
  let b ← newReplyText
  let r ← post (.getChatAdministrators evt.header.chat.id)
  let strerror ← read World.strerror
  let (ret, text, admins) ← chatAdmins strerror 4096 r
  let b ← reportText b ret text admins
  sendReply (reportPlace evt).1 (replyString b) (reportPlace evt).2
  pure 0

/-! ### The entry -/

def isWs (c : UInt8) : Bool := c == 32 || c == 10 || c == 9 || c == 13

def toLower (c : UInt8) : UInt8 := if 65 ≤ c ∧ c ≤ 90 then c + 32 else c

/-- The word that `strtolower_cp` copies; `none` where it does not fit. -/
def strtolowerCp (src : List UInt8) (dstLen : ℕ) : Option (List UInt8) :=
  let word := src.takeWhile (fun c => !isWs c)
  if word.length ≥ dstLen then none else some (word.map toLower)

def isAnAdminMention (tx : List UInt8) : Bool :=
  match tx with
  | 64 :: tx =>
    match strtolowerCp tx 9 with
    | none => false
    | some yx =>
      if !(ascii "admin").isPrefixOf yx then false
      else
        let tx := tx.drop 5
        let tx := if tx.head? = some 115 then tx.drop 1 else tx
        match tx with
        | [] => true
        | c :: _ => isWs c
  | _ => false

/-- The keywords in the order in which they are tried. -/
def keywords : List (String × ModCmd) :=
  [("ban", .ban), ("sban", .sban), ("unban", .unban), ("kick", .kick), ("skick", .skick), ("warn", .warn),
   ("mute", .mute), ("tmute", .tmute), ("unmute", .unmute), ("pin", .pin), ("unpin", .unpin), ("delete", .delete),
   ("del", .delete), ("report", .report), ("admin", .report), ("delvote", .delvote)]

/-- What the entry makes of a text: the command and the reason, `none` where it returns
`-ECANCELED` before it looks at a replied-to message. -/
def parseCommand (tx : List UInt8) : Option (ModCmd × CharPtr × Bool) :=
  match tx with
  | [] => none
  | c :: rest =>
    if c ≠ 33 ∧ c ≠ 47 ∧ c ≠ 46 ∧ c ≠ 126 then
      if isAnAdminMention tx then some (.report, none, true) else none
    else
      match strtolowerCp rest 9 with
      | none => none
      | some yx =>
        match keywords.find? (fun k => (ascii k.1).isPrefixOf yx) with
        | none => none
        | some (keyword, cmd) =>
          match rest.drop keyword.length with
          | [] => some (cmd, none, false)
          | c :: after =>
            if !isWs c then none else some (cmd, some ((c :: after).dropWhile isWs), false)

/-- The `switch` of the entry, after the privilege check. -/
def execCmd (cmd : ModCmd) (targetUid : ℕ) (reason : CharPtr) : Fill Fault World ℤ :=
  match cmd with
  | .nop => crash .abort
  | .ban => execAdmCmdBan evt targetUid reason false
  | .sban => execAdmCmdBan evt targetUid reason true
  | .unban => execAdmCmdUnban evt targetUid reason
  | .kick => execAdmCmdKick evt targetUid reason false
  | .skick => execAdmCmdKick evt targetUid reason true
  | .warn => pure (-ECANCELED)
  | .mute => execAdmCmdMute evt targetUid reason
  | .tmute => pure (-ECANCELED)
  | .unmute => execAdmCmdUnmute evt targetUid reason
  | .pin => execAdmCmdPin evt
  | .delete => execAdmCmdDelete evt
  | .unpin => execAdmCmdUnpin evt
  | .report => execUsrCmdReport evt
  | .delvote => pure (-ECANCELED)

/-- From the label `out_run_priv_chk` on. -/
def runPrivChk (cmd : ModCmd) (targetUid : ℕ) (reason : CharPtr) : Fill Fault World ℤ := do
  if cmd.bits &&& ADMIN_CMD_BITS ≠ 0 then
    let privileged ← isPrivilegedUser evt evt.header.sender.id
    if !privileged then pure 0 else execCmd evt cmd targetUid reason
  else execCmd evt cmd targetUid reason

/-- The entry of the module. A mention of the admins jumps over the target, and so does a report
that has neither a replied-to message nor a reason. -/
def adminEntry : Fill Fault World ℤ :=
  match evt.text with
  | none => pure (-ECANCELED)
  | some text =>
    match parseCommand (cString text) with
    | none => pure (-ECANCELED)
    | some (cmd, _, true) => runPrivChk evt cmd 0 none
    | some (cmd, reason, false) =>
      match evt.replyTo with
      | none => if reason.isNone ∧ cmd = .report then runPrivChk evt cmd 0 none else pure (-ECANCELED)
      | some replyTo => runPrivChk evt cmd replyTo.header.sender.id reason

end Commands

end GNUWeebBot
