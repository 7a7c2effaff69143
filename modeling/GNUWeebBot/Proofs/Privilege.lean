import GNUWeebBot.Model.Admin

/-!
# Only privileged senders moderate

The calls of a run are safe if every moderation request in it is aimed at the replied-to message or
its author, and comes after the sender was found to be privileged. The privilege check establishes
this; the commands keep it.
-/

namespace GNUWeebBot.Proofs

open Fill

def IsModeration : Request → Prop
  | .getChatAdministrators _ => False
  | .sendMessage _ _ _ => False
  | _ => True

section Trace

variable (evt : TgevText Tgev)

/-- The id is the one of the author of the replied-to message. -/
def IsTargetUser (userId : ℕ) : Prop := ∃ replyTo, evt.replyTo = some replyTo ∧ userId = replyTo.header.sender.id

/-- The id is the one of the replied-to message or of the command. -/
def IsTargetMessage (messageId : ℕ) : Prop :=
  (∃ replyTo, evt.replyTo = some replyTo ∧ messageId = replyTo.header.msgId) ∨ messageId = evt.header.msgId

def OnTarget : Request → Prop
  | .kickChatMember chatId userId _ _ => chatId = evt.header.chat.id ∧ IsTargetUser evt userId
  | .unbanChatMember chatId userId _ => chatId = evt.header.chat.id ∧ IsTargetUser evt userId
  | .restrictChatMember chatId userId _ _ => chatId = evt.header.chat.id ∧ IsTargetUser evt userId
  | .pinChatMessage chatId messageId _ => chatId = evt.header.chat.id ∧ IsTargetMessage evt messageId
  | .unpinChatMessage chatId messageId => chatId = evt.header.chat.id ∧ IsTargetMessage evt messageId
  | .deleteMessage chatId messageId => chatId = evt.header.chat.id ∧ IsTargetMessage evt messageId
  | _ => True

/-- The call asked for the administrators of the chat, it succeeded, and the sender is one of the
members that were reported. -/
def ReportsSender (request : Request) (r : Response) : Prop :=
  request = .getChatAdministrators evt.header.chat.id ∧ r.ret = 0 ∧
    ∃ json admins, r.body = some json ∧ call (parseTgaAdmins json) [] = .ok (0, admins) ∧
      ∃ admin ∈ admins, admin.user.id = evt.header.sender.id

def Privileged (calls : List (Request × Response)) : Prop :=
  evt.header.sender.id ∈ sudoers ∨ ∃ c ∈ calls, ReportsSender evt c.1 c.2

def SafeTrace (calls : List (Request × Response)) : Prop :=
  ∀ i request r, calls[i]? = some (request, r) → IsModeration request →
    Privileged evt (calls.take i) ∧ OnTarget evt request

def NoModeration (calls : List (Request × Response)) : Prop := ∀ c ∈ calls, ¬IsModeration c.1

variable {evt}

lemma Privileged.append {calls : List (Request × Response)} (h : Privileged evt calls) (c : Request × Response) :
    Privileged evt (calls ++ [c]) := by
  refine h.imp_right ?_
  rintro ⟨c', hc', hreports⟩
  exact ⟨c', List.mem_append_left _ hc', hreports⟩

lemma SafeTrace.append {calls : List (Request × Response)} {request : Request} (h : SafeTrace evt calls)
    (hnew : IsModeration request → Privileged evt calls ∧ OnTarget evt request) (r : Response) :
    SafeTrace evt (calls ++ [(request, r)]) := by
  intro i request' r' hi hmod
  rcases Nat.lt_or_ge i calls.length with hlt | hge
  · rw [List.getElem?_append_left hlt] at hi
    rw [List.take_append_of_le_length (Nat.le_of_lt hlt)]
    exact h i request' r' hi hmod
  · rw [List.getElem?_append_right hge] at hi
    have hlast : i - calls.length = 0 := by
      by_contra hne
      rw [List.getElem?_eq_none (by simp; omega)] at hi
      cases hi
    rw [hlast, List.getElem?_cons_zero, Option.some.injEq, Prod.mk.injEq] at hi
    obtain ⟨rfl, rfl⟩ := hi
    have htake : (calls ++ [(request, r)]).take i = calls := by
      rw [show i = calls.length by omega, List.take_left]
    rw [htake]
    exact hnew hmod

end Trace

/-! ### The two invariants -/

section Invariants

variable {evt : TgevText Tgev}

/-- Before the privilege check. -/
def Quiet (evt : TgevText Tgev) (w : World) : Prop := SafeTrace evt w.calls

/-- After it. -/
def Allowed (evt : TgevText Tgev) (w : World) : Prop := SafeTrace evt w.calls ∧ Privileged evt w.calls

lemma keeps_post_quiet {request : Request} (h : ¬IsModeration request) : Keeps (Quiet evt) (post request) :=
  ⟨fun _ hw => hw.append (fun hmod => absurd hmod h) _⟩

lemma keeps_post_allowed {request : Request} (h : OnTarget evt request) : Keeps (Allowed evt) (post request) :=
  ⟨fun _ hw => ⟨hw.1.append (fun _ => ⟨hw.2, h⟩) _, hw.2.append _⟩⟩

end Invariants

/-! ### Functions that do not moderate, under any invariant of their requests -/

section Quiet

variable {I : World → Prop} (hsend : ∀ chatId msgId text, Keeps I (post (.sendMessage chatId msgId text)))

include hsend in
lemma keeps_sendReply (chatId : ℤ) (text : List UInt8) (msgId : ℕ) : Keeps I (sendReply chatId text msgId) :=
  keeps_bind (hsend chatId msgId text) (fun _ => keeps_pure ())

lemma keeps_chatAdmins (strerror : ℤ → List UInt8) (size : ℕ) (r : Response) :
    Keeps I (chatAdmins strerror size r) := by
  unfold chatAdmins
  split
  · exact keeps_pure _
  · split
    · exact keeps_pure _
    · split
      · exact keeps_pure _
      · apply keeps_bind (keeps_fresh _ _)
        rintro ⟨ret, admins⟩
        dsimp only
        split <;> exact keeps_pure _

lemma keeps_putReported (b : Buf) (pos sps : ℕ) (user : TgaUser) : Keeps I (putReported b pos sps user) := by
  unfold putReported
  split
  · exact keeps_pure _
  · split
    · exact keeps_crash _
    · exact keeps_pure _

lemma keeps_putReportedAll (b : Buf) (pos sps : ℕ) (admins : List TgaChatMember) :
    Keeps I (putReportedAll b pos sps admins) := by
  induction admins generalizing b pos sps with
  | nil => exact keeps_pure b
  | cons admin admins ih =>
    rw [putReportedAll]
    apply keeps_bind (keeps_putReported b pos sps admin.user)
    rintro ⟨b', pos', sps'⟩
    exact ih b' pos' sps'

variable (hadmins : ∀ chatId, Keeps I (post (.getChatAdministrators chatId)))

include hsend hadmins in
lemma keeps_lookupTgPrivilege (evt : TgevText Tgev) (userId : ℕ) (chatId : ℤ) :
    Keeps I (lookupTgPrivilege evt userId chatId) := by
  apply keeps_bind (hadmins chatId)
  intro r
  apply keeps_bind (keeps_read _)
  intro strerror
  apply keeps_bind (keeps_chatAdmins strerror 128 r)
  rintro ⟨ret, text, admins⟩
  dsimp only
  split
  · exact keeps_bind (keeps_sendReply hsend _ _ _) (fun _ => keeps_pure _)
  · exact keeps_pure _

include hsend hadmins in
lemma keeps_isPrivilegedUser (evt : TgevText Tgev) (userId : ℕ) : Keeps I (isPrivilegedUser evt userId) := by
  unfold isPrivilegedUser
  split
  · exact keeps_pure _
  · apply keeps_bind (keeps_lookupTgPrivilege hsend hadmins evt userId _)
    intro ret
    split
    · exact keeps_pure _
    · split
      · exact keeps_bind (keeps_sendReply hsend _ _ _) (fun _ => keeps_pure _)
      · exact keeps_pure _

include hsend hadmins in
lemma keeps_execUsrCmdReport (evt : TgevText Tgev) : Keeps I (execUsrCmdReport evt) := by
  apply keeps_bind (keeps_read _)
  intro b
  apply keeps_bind (hadmins _)
  intro r
  apply keeps_bind (keeps_read _)
  intro strerror
  apply keeps_bind (keeps_chatAdmins strerror 4096 r)
  rintro ⟨ret, text, admins⟩
  apply keeps_bind
  · unfold reportText
    split
    · exact keeps_pure _
    · exact keeps_putReportedAll _ _ _ admins
  · exact fun b => keeps_bind (keeps_sendReply hsend _ _ _) (fun _ => keeps_pure _)

end Quiet

/-! ### The privilege check -/

section Check

variable {evt : TgevText Tgev}

lemma post_eq_next {request : Request} {r : Response} {w w' : World} (h : post request w = .next r w') :
    w'.calls = w.calls ++ [(request, r)] := by
  cases h
  rfl

/-- The code is zero only where the members were parsed. -/
lemma chatAdmins_next {strerror : ℤ → List UInt8} {size : ℕ} {r : Response} {w w' : World} {text : List UInt8}
    {admins : List TgaChatMember} (h : chatAdmins strerror size r w = .next (0, text, admins) w') :
    (r.ret = 0 ∧ ∃ json, r.body = some json ∧ call (parseTgaAdmins json) [] = .ok (0, admins)) ∧ w = w' := by
  have hinval : -EINVAL ≠ 0 := by decide
  unfold chatAdmins at h
  by_cases hret : r.ret = 0
  · rw [if_neg (not_not.mpr hret)] at h
    cases hbody : r.body with
    | none => simp [hbody, hinval] at h
    | some json =>
      simp only [hbody] at h
      by_cases hnull : json.isNull = true
      · simp [hnull, hinval] at h
      · rw [if_neg hnull, bind_eq_next] at h
        obtain ⟨⟨ret, admins'⟩, w₁, hfresh, h⟩ := h
        rw [fresh_eq_next] at hfresh
        obtain ⟨hcall, rfl⟩ := hfresh
        by_cases hzero : ret = 0
        · simp only [hzero, ne_eq, not_true_eq_false, if_false, pure_eq_next, Prod.mk.injEq, true_and] at h
          obtain ⟨⟨-, rfl⟩, rfl⟩ := h
          exact ⟨⟨hret, json, rfl, hzero ▸ hcall⟩, rfl⟩
        · simp [hzero] at h
  · simp [hret] at h

lemma lookupTgPrivilege_next {w w' : World}
    (h : lookupTgPrivilege evt evt.header.sender.id evt.header.chat.id w = .next 0 w') : Privileged evt w'.calls := by
  unfold lookupTgPrivilege at h
  simp only [bind_eq_next, read_eq_next] at h
  obtain ⟨r, w₁, hpost, strerror, w₂, ⟨-, rfl⟩, ⟨ret, text, admins⟩, w₃, hadmins, h⟩ := h
  have hcode : lookupCode ret admins evt.header.sender.id = 0 ∧ w₃ = w' := by
    by_cases hsend : lookupCode ret admins evt.header.sender.id ≠ 0 ∧ lookupCode ret admins evt.header.sender.id ≠ -EPERM
    · rw [if_pos hsend, bind_eq_next] at h
      obtain ⟨_, _, -, h⟩ := h
      rw [pure_eq_next] at h
      exact absurd h.1 hsend.1
    · rw [if_neg hsend, pure_eq_next] at h
      exact h
  obtain ⟨hcode, rfl⟩ := hcode
  have hperm : -EPERM ≠ 0 := by decide
  unfold lookupCode at hcode
  by_cases hret : ret = 0
  · rw [if_neg (not_not.mpr hret)] at hcode
    subst hret
    obtain ⟨⟨htransport, json, hbody, hparse⟩, rfl⟩ := chatAdmins_next hadmins
    have hany : (admins.any fun admin => admin.user.id == evt.header.sender.id) = true := by
      by_contra hnot
      rw [if_neg hnot] at hcode
      exact hperm hcode
    rw [List.any_eq_true] at hany
    obtain ⟨admin, hmem, hid⟩ := hany
    right
    rw [post_eq_next hpost]
    exact ⟨_, List.mem_append_right _ List.mem_cons_self, rfl, htransport, json, admins, hbody, hparse, admin, hmem,
      by simpa using hid⟩
  · rw [if_pos hret] at hcode
    exact absurd hcode hret

lemma isPrivilegedUser_next {w w' : World} (h : isPrivilegedUser evt evt.header.sender.id w = .next true w') :
    Privileged evt w'.calls := by
  unfold isPrivilegedUser at h
  by_cases hsudoer : checkIsSudoer evt.header.sender.id = true
  · left
    simpa [checkIsSudoer] using hsudoer
  · rw [if_neg hsudoer, bind_eq_next] at h
    obtain ⟨ret, w₁, hlookup, h⟩ := h
    by_cases hret : ret = 0
    · rw [if_pos hret, pure_eq_next] at h
      obtain ⟨-, rfl⟩ := h
      exact lookupTgPrivilege_next (hret ▸ hlookup)
    · rw [if_neg hret] at h
      by_cases hperm : ret = -EPERM
      · rw [if_pos hperm, bind_eq_next] at h
        obtain ⟨_, _, -, h⟩ := h
        simp at h
      · rw [if_neg hperm] at h
        simp at h

end Check

/-! ### The commands -/

section Commands

variable {evt : TgevText Tgev} {targetUid : ℕ}

lemma keeps_reply_allowed (text : List UInt8) :
    Keeps (Allowed evt) (do
      sendReply evt.header.chat.id text evt.header.msgId
      pure (0 : ℤ)) :=
  keeps_bind (keeps_sendReply (fun _ _ _ => keeps_post_allowed trivial) _ _ _) (fun _ => keeps_pure _)

lemma keeps_doRequest {name : String} {request : Request} (h : OnTarget evt request) (b : Buf) :
    Keeps (Allowed evt) (doRequest name request b) := by
  apply keeps_bind (keeps_post_allowed h)
  intro r
  apply keeps_bind (keeps_read _)
  intro strerror
  split <;> exact keeps_pure _

lemma keeps_doKick (h : IsTargetUser evt targetUid) (untilDate : ℕ) (revokeMsg : Bool) (b : Buf) :
    Keeps (Allowed evt) (doKick evt.header.chat.id targetUid untilDate revokeMsg b) := by
  apply keeps_doRequest
  exact ⟨rfl, h⟩

lemma keeps_doUnban (h : IsTargetUser evt targetUid) (onlyIfBanned : Bool) (b : Buf) :
    Keeps (Allowed evt) (doUnban evt.header.chat.id targetUid onlyIfBanned b) := by
  apply keeps_doRequest
  exact ⟨rfl, h⟩

lemma keeps_doMute (h : IsTargetUser evt targetUid) (untilDate : ℕ) (permissions : TgaResPerm) (b : Buf) :
    Keeps (Allowed evt) (doMute evt.header.chat.id targetUid untilDate permissions b) := by
  apply keeps_doRequest
  exact ⟨rfl, h⟩

lemma keeps_doPin {messageId : ℕ} (h : IsTargetMessage evt messageId) (disableNotification : Bool) (b : Buf) :
    Keeps (Allowed evt) (doPin evt.header.chat.id messageId disableNotification b) := by
  apply keeps_doRequest
  exact ⟨rfl, h⟩

lemma keeps_doUnpin {messageId : ℕ} (h : IsTargetMessage evt messageId) (b : Buf) :
    Keeps (Allowed evt) (doUnpin evt.header.chat.id messageId b) := by
  apply keeps_doRequest
  exact ⟨rfl, h⟩

lemma keeps_doDelMsg {messageId : ℕ} (h : IsTargetMessage evt messageId) (b : Buf) :
    Keeps (Allowed evt) (doDelMsg evt.header.chat.id messageId b) := by
  apply keeps_doRequest
  exact ⟨rfl, h⟩

lemma keeps_putTarget {I : World → Prop} (b : Buf) (fr : Option TgeviFrom) (text other : List UInt8) (otherSps : ℕ) :
    Keeps I (putTarget b fr text other otherSps) := by
  unfold putTarget
  split
  · exact keeps_pure _
  · split
    · exact keeps_crash _
    · exact keeps_pure _

lemma keeps_announce {I : World → Prop} {put : Buf → Tgev → Fill Fault World Buf} (h : ∀ b replyTo, Keeps I (put b replyTo))
    (b : Buf) : Keeps I (announce evt put b) := by
  unfold announce
  split
  · exact keeps_pure b
  · exact h b _

lemma keeps_putHasBeen {I : World → Prop} (b : Buf) (replyTo : Tgev) (verb : String) (reason : CharPtr) :
    Keeps I (putHasBeen b replyTo verb reason) :=
  keeps_bind (keeps_putTarget _ _ _ _ _) (fun _ => keeps_pure _)

lemma keeps_putBanned {I : World → Prop} (b : Buf) (replyTo : Tgev) (reason : CharPtr) :
    Keeps I (putBanned b replyTo reason) :=
  keeps_bind (keeps_putTarget _ _ _ _ _) (fun _ => keeps_pure _)

lemma keeps_kickOrUnban (htarget : IsTargetUser evt targetUid) (reason : CharPtr) (isUnban silent : Bool) :
    Keeps (Allowed evt) (kickOrUnban evt targetUid reason isUnban silent) := by
  apply keeps_bind (keeps_read _)
  intro b
  apply keeps_bind (keeps_doUnban htarget isUnban b)
  rintro ⟨tmp, b⟩
  dsimp only
  split
  · exact keeps_reply_allowed _
  · split
    · exact keeps_pure _
    · apply keeps_bind (keeps_announce (fun _ _ => keeps_putHasBeen _ _ _ _) b)
      exact fun b => keeps_reply_allowed _

lemma keeps_muteOrUnmute (htarget : IsTargetUser evt targetUid) (reason : CharPtr) (isUnmute : Bool) :
    Keeps (Allowed evt) (muteOrUnmute evt targetUid reason isUnmute) := by
  apply keeps_bind (keeps_read _)
  intro b
  apply keeps_bind (keeps_doMute htarget 0 _ b)
  rintro ⟨tmp, b⟩
  dsimp only
  split
  · exact keeps_reply_allowed _
  · apply keeps_bind (keeps_announce (fun _ _ => keeps_putHasBeen _ _ _ _) b)
    exact fun b => keeps_reply_allowed _

lemma keeps_deleteBoth (b : Buf) : Keeps (Allowed evt) (deleteBoth evt b) := by
  apply keeps_bind (keeps_doDelMsg (Or.inr rfl) b)
  rintro ⟨tmp, b⟩
  dsimp only
  split
  · exact keeps_reply_allowed _
  · split
    · exact keeps_pure _
    · rename_i replyTo hreply
      apply keeps_bind (keeps_doDelMsg (Or.inl ⟨replyTo, hreply, rfl⟩) b)
      rintro ⟨tmp, b⟩
      dsimp only
      split
      · exact keeps_reply_allowed _
      · exact keeps_pure _

lemma keeps_execAdmCmdBan (htarget : IsTargetUser evt targetUid) (reason : CharPtr) (silent : Bool) :
    Keeps (Allowed evt) (execAdmCmdBan evt targetUid reason silent) := by
  apply keeps_bind (keeps_read _)
  intro b
  apply keeps_bind (keeps_doKick htarget 0 true b)
  rintro ⟨tmp, b⟩
  dsimp only
  split
  · exact keeps_reply_allowed _
  · split
    · exact keeps_deleteBoth b
    · apply keeps_bind (keeps_announce (fun _ _ => keeps_putBanned _ _ _) b)
      exact fun b => keeps_reply_allowed _

lemma keeps_execAdmCmdKick (htarget : IsTargetUser evt targetUid) (reason : CharPtr) (silent : Bool) :
    Keeps (Allowed evt) (execAdmCmdKick evt targetUid reason silent) := by
  apply keeps_bind (keeps_kickOrUnban htarget reason false silent)
  intro ret
  split
  · exact keeps_bind (keeps_read _) (fun b => keeps_deleteBoth b)
  · exact keeps_pure _

lemma keeps_execOnReplied {hint done : String} {request : ℕ → Buf → Fill Fault World (Bool × Buf)}
    (h : ∀ replyTo b, evt.replyTo = some replyTo → Keeps (Allowed evt) (request replyTo.header.msgId b)) :
    Keeps (Allowed evt) (execOnReplied evt hint request done) := by
  unfold execOnReplied
  split
  · exact keeps_crash _
  · rename_i replyTo hreply
    dsimp only
    split
    · exact keeps_reply_allowed _
    · apply keeps_bind (keeps_read _)
      intro b
      apply keeps_bind (h replyTo b hreply)
      rintro ⟨tmp, b⟩
      exact keeps_reply_allowed _

lemma keeps_execAdmCmdPin : Keeps (Allowed evt) (execAdmCmdPin evt) := by
  apply keeps_execOnReplied
  intro replyTo b hreply
  exact keeps_doPin (Or.inl ⟨replyTo, hreply, rfl⟩) false b

lemma keeps_execAdmCmdUnpin : Keeps (Allowed evt) (execAdmCmdUnpin evt) := by
  apply keeps_execOnReplied
  intro replyTo b hreply
  exact keeps_doUnpin (Or.inl ⟨replyTo, hreply, rfl⟩) b

lemma keeps_execAdmCmdDelete : Keeps (Allowed evt) (execAdmCmdDelete evt) := by
  apply keeps_execOnReplied
  intro replyTo b hreply
  apply keeps_bind (keeps_doDelMsg (Or.inl ⟨replyTo, hreply, rfl⟩) b)
  rintro ⟨tmp, b⟩
  dsimp only
  split
  · exact keeps_pure _
  · exact keeps_doDelMsg (Or.inr rfl) b

theorem keeps_execCmd (cmd : ModCmd) (htarget : IsTargetUser evt targetUid) (reason : CharPtr) :
    Keeps (Allowed evt) (execCmd evt cmd targetUid reason) := by
  cases cmd with
  | nop => exact keeps_crash _
  | ban => exact keeps_execAdmCmdBan htarget reason false
  | sban => exact keeps_execAdmCmdBan htarget reason true
  | unban => exact keeps_kickOrUnban htarget reason true false
  | kick => exact keeps_execAdmCmdKick htarget reason false
  | skick => exact keeps_execAdmCmdKick htarget reason true
  | warn => exact keeps_pure _
  | mute => exact keeps_muteOrUnmute htarget reason false
  | tmute => exact keeps_pure _
  | unmute => exact keeps_muteOrUnmute htarget reason true
  | pin => exact keeps_execAdmCmdPin
  | unpin => exact keeps_execAdmCmdUnpin
  | delete => exact keeps_execAdmCmdDelete
  | report =>
    exact keeps_execUsrCmdReport (fun _ _ _ => keeps_post_allowed trivial) (fun _ => keeps_post_allowed trivial) evt
  | delvote => exact keeps_pure _

end Commands

/-! ### The entry -/

section Entry

variable {evt : TgevText Tgev}

/-- The commands that need no privilege do not moderate. -/
lemma keeps_execCmd_quiet {cmd : ModCmd} (hcmd : cmd.bits &&& ADMIN_CMD_BITS = 0) (targetUid : ℕ) (reason : CharPtr) :
    Keeps (Quiet evt) (execCmd evt cmd targetUid reason) := by
  have hreport := keeps_execUsrCmdReport (I := Quiet evt) (fun _ _ _ => keeps_post_quiet id)
    (fun _ => keeps_post_quiet id) evt
  cases cmd <;> first | exact keeps_pure _ | exact keeps_crash _ | exact hreport | exact absurd hcmd (by decide)

lemma keeps_runPrivChk_report (targetUid : ℕ) (reason : CharPtr) :
    Keeps (Quiet evt) (runPrivChk evt .report targetUid reason) := by
  have hcmd : ModCmd.report.bits &&& ADMIN_CMD_BITS = 0 := by decide
  unfold runPrivChk
  rw [if_neg (not_not.mpr hcmd)]
  exact keeps_execCmd_quiet hcmd targetUid reason

lemma keeps_runPrivChk (cmd : ModCmd) {targetUid : ℕ} (htarget : IsTargetUser evt targetUid) (reason : CharPtr) :
    Keeps (Quiet evt) (runPrivChk evt cmd targetUid reason) := by
  unfold runPrivChk
  by_cases hcmd : cmd.bits &&& ADMIN_CMD_BITS = 0
  · rw [if_neg (not_not.mpr hcmd)]
    exact keeps_execCmd_quiet hcmd targetUid reason
  · rw [if_pos hcmd]
    have hcheck := keeps_isPrivilegedUser (I := Quiet evt) (fun _ _ _ => keeps_post_quiet id)
      (fun _ => keeps_post_quiet id) evt evt.header.sender.id
    apply keeps_bind_of hcheck (J := fun privileged w => Quiet evt w ∧ (privileged = true → Privileged evt w.calls))
    · intro w privileged w' hw hnext
      refine ⟨?_, fun htrue => isPrivilegedUser_next (htrue ▸ hnext)⟩
      rw [← final_of_next hnext]
      exact hcheck.final w hw
    · rintro privileged w' ⟨hquiet, hpriv⟩
      cases privileged with
      | false => exact (keeps_pure _).final w' hquiet
      | true => exact ((keeps_execCmd cmd htarget reason).final w' ⟨hquiet, hpriv rfl⟩).1

/-- A mention is a report. -/
lemma parseCommand_mention {tx : List UInt8} {cmd : ModCmd} {reason : CharPtr}
    (h : parseCommand tx = some (cmd, reason, true)) : cmd = .report := by
  unfold parseCommand at h
  split at h
  · cases h
  · split at h
    · split at h
      · cases h
        rfl
      · cases h
    · split at h
      · cases h
      · split at h
        · cases h
        · split at h
          · cases h
          · split at h <;> cases h

theorem keeps_adminEntry (evt : TgevText Tgev) : Keeps (Quiet evt) (adminEntry evt) := by
  unfold adminEntry
  split
  · exact keeps_pure _
  · split
    · exact keeps_pure _
    · rename_i hmention
      rw [parseCommand_mention hmention]
      exact keeps_runPrivChk_report 0 none
    · split
      · split
        · rename_i hreport
          rw [hreport.2]
          exact keeps_runPrivChk_report 0 none
        · exact keeps_pure _
      · rename_i cmd reason _ _ replyTo hreply
        exact keeps_runPrivChk cmd ⟨replyTo, hreply, rfl⟩ reason

lemma SafeTrace.none_of_not_privileged {calls : List (Request × Response)} (h : SafeTrace evt calls)
    (hnot : ¬Privileged evt calls) : NoModeration calls := by
  intro c hc hmod
  obtain ⟨i, hi⟩ := List.getElem?_of_mem hc
  obtain ⟨hpriv, -⟩ := h i c.1 c.2 hi hmod
  apply hnot
  refine hpriv.imp_right ?_
  rintro ⟨c', hc', hreports⟩
  exact ⟨c', List.mem_of_mem_take hc', hreports⟩

/-- Whatever the API answers, and also where the run ends in a fault: the moderation requests are safe,
and without a privilege there are none. -/
theorem moderation_is_privileged (evt : TgevText Tgev) (respond : ℕ → Response) (strerror : ℤ → List UInt8)
    (junk : ℕ → UInt8) :
    let calls := (final (adminEntry evt) ⟨respond, strerror, junk, []⟩).calls
    SafeTrace evt calls ∧ (Privileged evt calls ∨ NoModeration calls) := by
  intro calls
  have hsafe : SafeTrace evt calls := by
    apply (keeps_adminEntry evt).final
    intro i request r hi
    simp at hi
  refine ⟨hsafe, ?_⟩
  by_cases hpriv : Privileged evt calls
  · exact Or.inl hpriv
  · exact Or.inr (hsafe.none_of_not_privileged hpriv)

end Entry

end GNUWeebBot.Proofs
