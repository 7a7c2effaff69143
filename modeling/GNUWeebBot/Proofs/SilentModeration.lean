import GNUWeebBot.Proofs.Announcement

/-!
# Silent moderation

`/sban` and `/skick` ask for an action and then for two messages to be deleted. Each request depends on
the one before, but `kick_or_unban` returns zero after its error reply too, so `/skick` goes on where the
action was refused.
-/

namespace GNUWeebBot.Proofs

open Fill

/-! ### Requests in turn -/

/-- The requests of the plan are made in turn until one is refused; the error of that one is sent as a
reply, and no other request is made. -/
def StopsAtRefusal (evt : TgevText Tgev) (strerror : ℤ → List UInt8) : List Request → List (Request × Response) → Prop
  | [], calls => calls = []
  | req :: plan, calls =>
    ∃ r rest, calls = (req, r) :: rest ∧ (Succeeded r → StopsAtRefusal evt strerror plan rest) ∧
      (¬Succeeded r →
        ∃ r', rest = [(.sendMessage evt.header.chat.id evt.header.msgId (errorText strerror (req, r)), r')])

/-- A run of the code with its requests. -/
def RunsPlan (evt : TgevText Tgev) (plan : List Request) (m : Fill Fault World ℤ) (w : World) : Prop :=
  ∃ code w' calls, m w = .next code w' ∧ w'.calls = w.calls ++ calls ∧ StopsAtRefusal evt w.strerror plan calls

/-- The command in the chat, its message and the replied-to one. -/
def silentPlan (cmd : ModCmd) (evt : TgevText Tgev) (replyTo : Tgev) : List Request :=
  [if cmd = .sban then .kickChatMember evt.header.chat.id replyTo.header.sender.id 0 true
    else .unbanChatMember evt.header.chat.id replyTo.header.sender.id false,
    .deleteMessage evt.header.chat.id evt.header.msgId, .deleteMessage evt.header.chat.id replyTo.header.msgId]

/-- The error is sent as a reply, or the code goes on. -/
def ifDone (evt : TgevText Tgev) (call : Buf → Fill Fault World (Bool × Buf)) (next : Buf → Fill Fault World ℤ) (b : Buf) :
    Fill Fault World ℤ := do
  let (tmp, b) ← call b
  if !tmp then
    sendReply evt.header.chat.id (replyString b) evt.header.msgId
    pure 0
  else next b

section Plan

variable {evt : TgevText Tgev} {req : Request} {plan : List Request} {w : World}
  {call : Buf → Fill Fault World (Bool × Buf)} {next : Buf → Fill Fault World ℤ}

lemma ifDone_succeeded (hcall : IsWrapper req call) (h : Succeeded (answer w)) (b : Buf) :
    ifDone evt call next b w = next b (posted w req) := by
  rw [hcall.eq_doRequest, ifDone, bind_of_next (doRequest_succeeded _ req b h)]
  rfl

/-- The reply to the command after a refusal. -/
def errorReply (evt : TgevText Tgev) (w : World) (req : Request) : Request :=
  .sendMessage evt.header.chat.id evt.header.msgId (errorText w.strerror (req, answer w))

lemma ifDone_refused (hcall : IsWrapper req call) (hret : (answer w).ret = 0) (h : ¬Succeeded (answer w)) (b : Buf) :
    ifDone evt call next b w = .next 0 (posted (posted w req) (errorReply evt w req)) := by
  obtain ⟨b', hrun, htext⟩ := doRequest_refused (requestName req) req b hret h
  rw [hcall.eq_doRequest, ifDone, bind_of_next hrun, errorReply, ← htext]
  rfl

lemma runsPlan_ifDone (hcall : IsWrapper req call) (hret : (answer w).ret = 0) (b : Buf)
    (hnext : Succeeded (answer w) → RunsPlan evt plan (next b) (posted w req)) :
    RunsPlan evt (req :: plan) (ifDone evt call next b) w := by
  by_cases hsucc : Succeeded (answer w)
  · obtain ⟨code, w', calls, hrun, hcalls, hplan⟩ := hnext hsucc
    refine ⟨code, w', (req, answer w) :: calls, ?_, ?_, answer w, calls, rfl, fun _ => hplan, fun hnot => absurd hsucc hnot⟩
    · rw [ifDone_succeeded hcall hsucc, hrun]
    · rw [hcalls, posted, List.append_assoc, List.singleton_append]
  · refine ⟨0, _, [(req, answer w), (errorReply evt w req, answer (posted w req))], ifDone_refused hcall hret hsucc b, ?_,
      answer w, _, rfl, fun h => absurd h hsucc, fun _ => ⟨_, rfl⟩⟩
    simp only [posted, List.append_assoc, List.singleton_append]

lemma runsPlan_done (w : World) : RunsPlan evt [] (pure 0) w := ⟨0, w, [], rfl, (List.append_nil _).symm, rfl⟩

end Plan

/-! ### The two commands -/

section Silent

variable {evt : TgevText Tgev} {replyTo : Tgev} (hreply : evt.replyTo = some replyTo) {w : World}
  (hret : ∀ i, (w.respond i).ret = 0) (reason : CharPtr)

include hreply hret

/-- The command and the replied-to message are deleted in turn. -/
lemma runsPlan_deleteBoth (b : Buf) :
    RunsPlan evt [.deleteMessage evt.header.chat.id evt.header.msgId, .deleteMessage evt.header.chat.id replyTo.header.msgId]
      (deleteBoth evt b) w := by
  have hboth : deleteBoth evt b = ifDone evt (doDelMsg evt.header.chat.id evt.header.msgId)
      (ifDone evt (doDelMsg evt.header.chat.id replyTo.header.msgId) (fun _ => pure 0)) b := by
    unfold deleteBoth
    rw [hreply]
    rfl
  rw [hboth]
  apply runsPlan_ifDone (.delMsg _ _) (hret _)
  intro _
  apply runsPlan_ifDone (.delMsg _ _)
  · exact hret _
  · exact fun _ => runsPlan_done _

lemma runsPlan_sban :
    RunsPlan evt (silentPlan .sban evt replyTo) (execAdmCmdBan evt replyTo.header.sender.id reason true) w := by
  have hban : execAdmCmdBan evt replyTo.header.sender.id reason true w =
      ifDone evt (doKick evt.header.chat.id replyTo.header.sender.id 0 true) (deleteBoth evt) (Buf.fresh w.junk) w := rfl
  unfold RunsPlan
  rw [hban]
  apply runsPlan_ifDone (.kick _ _ _ _) (hret _)
  exact fun _ => runsPlan_deleteBoth (w := posted w _) hreply hret _

omit hreply hret in
lemma execAdmCmdKick_silent {w' : World}
    (h : ifDone evt (doUnban evt.header.chat.id replyTo.header.sender.id false) (fun _ => pure 0) (Buf.fresh w.junk) w =
      .next 0 w') :
    execAdmCmdKick evt replyTo.header.sender.id reason true w = deleteBoth evt (Buf.fresh w'.junk) w' := by
  have hunban : kickOrUnban evt replyTo.header.sender.id reason false true w = .next 0 w' := h
  unfold execAdmCmdKick
  rw [bind_of_next hunban]
  rfl

/-- `/skick` keeps to its plan exactly where the action was accepted. -/
lemma runsPlan_skick_iff :
    RunsPlan evt (silentPlan .skick evt replyTo) (execAdmCmdKick evt replyTo.header.sender.id reason true) w ↔
      Succeeded (answer w) := by
  have hunban : IsWrapper (.unbanChatMember evt.header.chat.id replyTo.header.sender.id false)
    (doUnban evt.header.chat.id replyTo.header.sender.id false) := .unban _ _ _
  by_cases hsucc : Succeeded (answer w)
  · refine iff_of_true ?_ hsucc
    have hrun : execAdmCmdKick evt replyTo.header.sender.id reason true w =
        ifDone evt (doUnban evt.header.chat.id replyTo.header.sender.id false) (deleteBoth evt) (Buf.fresh w.junk) w := by
      rw [execAdmCmdKick_silent reason (ifDone_succeeded hunban hsucc _), ifDone_succeeded hunban hsucc]
      rfl
    unfold RunsPlan
    rw [hrun]
    apply runsPlan_ifDone hunban (hret _)
    exact fun _ => runsPlan_deleteBoth (w := posted w _) hreply hret _
  · refine iff_of_false ?_ hsucc
    rintro ⟨code, w', calls, hrun, hcalls, r, rest, rfl, -, hstop⟩
    rw [execAdmCmdKick_silent reason (ifDone_refused hunban (hret _) hsucc _)] at hrun
    -- the deletion comes after the error reply
    let replied := posted (posted w (.unbanChatMember evt.header.chat.id replyTo.header.sender.id false))
      (errorReply evt w (.unbanChatMember evt.header.chat.id replyTo.header.sender.id false))
    obtain ⟨code', w'', more, hmore, hdeleted, r', rest', rfl, -⟩ :=
      runsPlan_deleteBoth (w := replied) hreply hret (Buf.fresh replied.junk)
    rw [hmore, Outcome.next.injEq] at hrun
    rw [← hrun.2, hdeleted] at hcalls
    have hall : replied.calls = w.calls ++ [(.unbanChatMember evt.header.chat.id replyTo.header.sender.id false, answer w),
        (errorReply evt w (.unbanChatMember evt.header.chat.id replyTo.header.sender.id false), answer (posted w _))] :=
      List.append_assoc _ _ _
    rw [hall, List.append_assoc, List.append_cancel_left_eq, List.cons_append, List.cons.injEq, Prod.mk.injEq] at hcalls
    obtain ⟨⟨-, rfl⟩, rfl⟩ := hcalls
    obtain ⟨_, hone⟩ := hstop hsucc
    cases hone

end Silent

/-! ### The event -/

/-- The requests of the event after the privilege check, which has led to `w₁`: none where no message is
replied to, else those of the plan up to the first refusal. -/
def SilentlyModerates (cmd : ModCmd) (evt : TgevText Tgev) (w w₁ : World) : Prop :=
  match evt.replyTo with
  | none => ∃ code, adminEntry evt w = .next code w
  | some replyTo => ∃ code w' calls, adminEntry evt w = .next code w' ∧ w'.calls = w₁.calls ++ calls ∧
    StopsAtRefusal evt w.strerror (silentPlan cmd evt replyTo) calls

section Event

variable {evt : TgevText Tgev} {text : List UInt8} {cmd : ModCmd} {reason : CharPtr} {w w₁ : World}
  (htext : evt.text = some text) (hparse : parseCommand (cString text) = some (cmd, reason, false))
  (hcmd : cmd = .sban ∨ cmd = .skick) (hpriv : isPrivilegedUser evt evt.header.sender.id w = .next true w₁)

include htext hparse

lemma adminEntry_unreplied (hcmd : cmd ≠ .report) (hreply : evt.replyTo = none) : adminEntry evt w = .next (-ECANCELED) w := by
  unfold adminEntry
  rw [htext]
  dsimp only
  rw [hparse, hreply]
  dsimp only
  rw [if_neg (fun h => hcmd h.2)]
  rfl

include hcmd hpriv

lemma adminEntry_privileged {replyTo : Tgev} (hreply : evt.replyTo = some replyTo) :
    adminEntry evt w = execCmd evt cmd replyTo.header.sender.id reason w₁ := by
  have hbits : cmd.bits &&& ADMIN_CMD_BITS ≠ 0 := by rcases hcmd with rfl | rfl <;> decide
  unfold adminEntry
  rw [htext]
  dsimp only
  rw [hparse, hreply]
  dsimp only
  rw [runPrivChk, if_pos hbits, bind_of_next hpriv]
  rfl

omit htext hparse hcmd in
/-- The check only makes requests. -/
lemma isPrivilegedUser_world : w₁.respond = w.respond ∧ w₁.strerror = w.strerror := by
  have hpost : ∀ req : Request, Keeps (fun w' => w'.respond = w.respond ∧ w'.strerror = w.strerror) (post req) :=
    fun _ => ⟨fun _ h => h⟩
  have hkeeps := keeps_isPrivilegedUser (fun _ _ _ => hpost _) (fun _ => hpost _) evt evt.header.sender.id
  have hfinal := hkeeps.final w ⟨rfl, rfl⟩
  rwa [final_of_next hpriv] at hfinal

/-- `/sban` deletes only after the ban was accepted; `/skick` also deletes where its action was
refused. -/
theorem silent_moderation_iff (hret : ∀ i, (w.respond i).ret = 0) :
    SilentlyModerates cmd evt w w₁ ↔ evt.replyTo = none ∨ cmd = .sban ∨ Succeeded (answer w₁) := by
  obtain ⟨hrespond, hstrerror⟩ := isPrivilegedUser_world hpriv
  have hret₁ : ∀ i, (w₁.respond i).ret = 0 := hrespond ▸ hret
  unfold SilentlyModerates
  cases hreply : evt.replyTo with
  | none =>
    have hnot : cmd ≠ .report := by rcases hcmd with rfl | rfl <;> decide
    exact iff_of_true ⟨_, adminEntry_unreplied htext hparse hnot hreply⟩ (Or.inl rfl)
  | some replyTo =>
    have hrun := adminEntry_privileged htext hparse hcmd hpriv hreply
    dsimp only
    rw [hrun, ← hstrerror]
    rcases hcmd with rfl | rfl
    · exact iff_of_true (runsPlan_sban hreply hret₁ reason) (Or.inr (Or.inl rfl))
    · refine (runsPlan_skick_iff hreply hret₁ reason).trans ?_
      simp

end Event

/-! ### A refused kick -/

def silentEvent (text : String) : TgevText Tgev := { banEvent with text := some (ascii text) }

/-- The API refuses the first request and accepts the others. -/
def refusedResponse : Response where
  ret := 0
  body := some (.object [(ascii "ok", .bool false), (ascii "description", .string (ascii "Bad Request"))])
  allocated _ := rfl

lemma refusedResponse_ret (i : ℕ) : ((banWorld refusedResponse).respond i).ret = 0 := by
  unfold banWorld
  dsimp only
  split <;> rfl

lemma not_succeeded_refusedResponse : ¬Succeeded refusedResponse := by
  rintro ⟨-, json, hjson, ok, hok, htrue⟩
  cases hjson
  cases hok
  cases htrue

theorem silent_ban_refused :
    (silentEvent "/sban").text = some (ascii "/sban") ∧
      parseCommand (cString (ascii "/sban")) = some (.sban, none, false) ∧
      (ModCmd.sban = .sban ∨ ModCmd.sban = .skick) ∧
      isPrivilegedUser (silentEvent "/sban") 133862899 (banWorld refusedResponse) = .next true (banWorld refusedResponse) ∧
      (∀ i, ((banWorld refusedResponse).respond i).ret = 0) ∧
      SilentlyModerates .sban (silentEvent "/sban") (banWorld refusedResponse) (banWorld refusedResponse) := by
  have hparse : parseCommand (cString (ascii "/sban")) = some (.sban, none, false) := by decide
  exact ⟨rfl, hparse, Or.inl rfl, rfl, refusedResponse_ret,
    (silent_moderation_iff rfl hparse (Or.inl rfl) rfl refusedResponse_ret).mpr (Or.inr (Or.inl rfl))⟩

/-- Both messages are deleted although the target was not removed. -/
theorem silent_kick_deletes :
    ¬SilentlyModerates .skick (silentEvent "/skick") (banWorld refusedResponse) (banWorld refusedResponse) ∧
      ∃ w', adminEntry (silentEvent "/skick") (banWorld refusedResponse) = .next 0 w' ∧
        w'.calls.map Prod.fst = [.unbanChatMember (-5) 7 false, .sendMessage (-5) 9 (ascii "Error: Bad Request"),
          .deleteMessage (-5) 9, .deleteMessage (-5) 8] := by
  have hparse : parseCommand (cString (ascii "/skick")) = some (.skick, none, false) := by decide
  have hrun : adminEntry (silentEvent "/skick") (banWorld refusedResponse) =
      execCmd (silentEvent "/skick") .skick banTarget.header.sender.id none (banWorld refusedResponse) :=
    adminEntry_privileged rfl hparse (Or.inr rfl) rfl rfl
  constructor
  · intro h
    change ∃ code w' calls, adminEntry (silentEvent "/skick") (banWorld refusedResponse) = .next code w' ∧ _ at h
    rw [hrun] at h
    exact not_succeeded_refusedResponse ((runsPlan_skick_iff rfl refusedResponse_ret none).mp h)
  · exact ⟨_, rfl, rfl⟩

end GNUWeebBot.Proofs
