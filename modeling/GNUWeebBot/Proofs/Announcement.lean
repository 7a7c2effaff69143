import GNUWeebBot.Proofs.Privilege
import GNUWeebBot.Proofs.ReplyText

/-!
# What the replies of the commands say

A reply that announces success and the error text of a request differ in their first byte, so a
command tells the truth where it composes the one or the other after the right outcome. A request
that failed in the transport is taken for one that succeeded.
-/

namespace GNUWeebBot.Proofs

open Fill

/-! ### The outcome of a request -/

def Accepted (json : Json) : Prop := ∃ ok, json.getNonNull "ok" = some ok ∧ ok.getBoolean = true

/-- The transport worked and the API accepted. -/
def Succeeded (r : Response) : Prop := r.ret = 0 ∧ ∃ json, r.body = some json ∧ Accepted json

/-- The function that makes the request. -/
def requestName : Request → String
  | .getChatAdministrators _ => "tga_get_chat_admins"
  | .sendMessage _ _ _ => "tga_send_msg"
  | .kickChatMember _ _ _ _ => "tga_kick_chat_member"
  | .unbanChatMember _ _ _ => "tga_unban_chat_member"
  | .restrictChatMember _ _ _ _ => "tga_restrict_chat_member"
  | .pinChatMessage _ _ _ => "tga_pin_chat_msg"
  | .unpinChatMessage _ _ => "tga_unpin_chat_msg"
  | .deleteMessage _ _ => "tga_delete_msg"

def refusal (json : Json) : List UInt8 :=
  if json.isNull then errParse
  else
    match json.getNonNull "ok" with
    | none => ascii "Cannot find \"ok\" key from JSON API"
    | some _ =>
      match json.optString "description" with
      | none => errParse
      | some desc => ascii "Error: " ++ desc

/-- The error text that is written for a request that failed. -/
def errorText (strerror : ℤ → List UInt8) (c : Request × Response) : List UInt8 :=
  let message :=
    if c.2.ret ≠ 0 then ascii "Error: " ++ ascii (requestName c.1) ++ ascii "(): " ++ prerf strerror (-c.2.ret)
    else refusal (c.2.body.getD .null)
  cString (message.take (RTB_SIZE - 1))

lemma not_accepted_of_isNull {json : Json} (h : json.isNull = true) : ¬Accepted json := by
  cases json <;> simp_all [Accepted, Json.isNull, Json.getNonNull, Json.getEx]

lemma succeeded_iff {r : Response} (hret : r.ret = 0) : Succeeded r ↔ Accepted (r.body.getD .null) := by
  cases hbody : r.body with
  | none =>
    have hnot := not_accepted_of_isNull (show Json.null.isNull = true from rfl)
    simp [Succeeded, hbody, hnot]
  | some json => simp [Succeeded, hret, hbody]

lemma processJsonMsg_accepted {json : Json} (h : Accepted json) (b : Buf) : processJsonMsg json b = (true, b) := by
  have hnull : json.isNull ≠ true := fun hnull => not_accepted_of_isNull hnull h
  obtain ⟨ok, hok, htrue⟩ := h
  simp only [processJsonMsg, if_neg hnull, hok, htrue, if_true]

lemma processJsonMsg_refused {json : Json} (h : ¬Accepted json) (b : Buf) :
    ∃ b', processJsonMsg json b = (false, b') ∧ replyString b' = cString ((refusal json).take (RTB_SIZE - 1)) := by
  unfold processJsonMsg refusal
  by_cases hnull : json.isNull = true
  · rw [if_pos hnull, if_pos hnull]
    exact ⟨_, rfl, replyString_put b (by decide)⟩
  · rw [if_neg hnull, if_neg hnull]
    cases hok : json.getNonNull "ok" with
    | none => exact ⟨_, rfl, replyString_put b (by decide)⟩
    | some ok =>
      have hfalse : ok.getBoolean ≠ true := fun htrue => h ⟨ok, hok, htrue⟩
      dsimp only
      rw [if_neg hfalse]
      cases json.optString "description" with
      | none => exact ⟨_, rfl, replyString_put b (by decide)⟩
      | some desc => exact ⟨_, rfl, replyString_snprintf b _⟩

section Requests

/-- The response to the next call. -/
def answer (w : World) : Response := w.respond w.calls.length

/-- The world after a call. -/
def posted (w : World) (req : Request) : World := { w with calls := w.calls ++ [(req, answer w)] }

variable (name : String) (req : Request) (b : Buf) {w : World}

lemma doRequest_run :
    doRequest name req b w =
      if (answer w).ret ≠ 0 then
        .next (true, snprintf b 0 RTB_SIZE
          (ascii "Error: " ++ ascii name ++ ascii "(): " ++ prerf w.strerror (-(answer w).ret))) (posted w req)
      else .next (processJsonMsg ((answer w).body.getD .null) b) (posted w req) := by
  change (if (answer w).ret ≠ 0 then pure _ else pure _ : Fill Fault World (Bool × Buf)) (posted w req) = _
  split <;> rfl

lemma doRequest_succeeded (h : Succeeded (answer w)) : doRequest name req b w = .next (true, b) (posted w req) := by
  rw [doRequest_run, if_neg (not_not.mpr h.1), processJsonMsg_accepted ((succeeded_iff h.1).mp h)]

lemma doRequest_lost (h : (answer w).ret ≠ 0) : ∃ b', doRequest name req b w = .next (true, b') (posted w req) := by
  rw [doRequest_run, if_pos h]
  exact ⟨_, rfl⟩

lemma doRequest_refused (hret : (answer w).ret = 0) (h : ¬Succeeded (answer w)) :
    ∃ b', doRequest name req b w = .next (false, b') (posted w req) ∧
      replyString b' = errorText w.strerror (req, answer w) := by
  rw [succeeded_iff hret] at h
  obtain ⟨b', hmsg, htext⟩ := processJsonMsg_refused h b
  refine ⟨b', ?_, ?_⟩
  · rw [doRequest_run, if_neg (not_not.mpr hret), hmsg]
  · rw [htext, errorText, if_neg (not_not.mpr hret)]

/-- The request and the function of `admin.c` that makes it. -/
inductive IsWrapper : Request → (Buf → Fill Fault World (Bool × Buf)) → Prop
  | kick (chatId : ℤ) (userId untilDate : ℕ) (revokeMsg : Bool) :
    IsWrapper (.kickChatMember chatId userId untilDate revokeMsg) (doKick chatId userId untilDate revokeMsg)
  | unban (chatId : ℤ) (userId : ℕ) (onlyIfBanned : Bool) :
    IsWrapper (.unbanChatMember chatId userId onlyIfBanned) (doUnban chatId userId onlyIfBanned)
  | mute (chatId : ℤ) (userId untilDate : ℕ) (permissions : TgaResPerm) :
    IsWrapper (.restrictChatMember chatId userId untilDate permissions) (doMute chatId userId untilDate permissions)
  | pin (chatId : ℤ) (messageId : ℕ) (disableNotification : Bool) :
    IsWrapper (.pinChatMessage chatId messageId disableNotification) (doPin chatId messageId disableNotification)
  | unpin (chatId : ℤ) (messageId : ℕ) : IsWrapper (.unpinChatMessage chatId messageId) (doUnpin chatId messageId)
  | delMsg (chatId : ℤ) (messageId : ℕ) : IsWrapper (.deleteMessage chatId messageId) (doDelMsg chatId messageId)

variable {req} {call : Buf → Fill Fault World (Bool × Buf)}

lemma IsWrapper.eq_doRequest (h : IsWrapper req call) : call = doRequest (requestName req) req := by
  cases h <;> rfl

lemma IsWrapper.isModeration (h : IsWrapper req call) : IsModeration req := by
  cases h <;> trivial

/-- A wrapper returns true exactly after a success, unless the transport failed. -/
lemma IsWrapper.returns_iff (h : IsWrapper req call) (w : World) :
    ((∃ b' w', call b w = .next (true, b') w') ↔ Succeeded (answer w)) ↔ (answer w).ret = 0 := by
  rw [h.eq_doRequest]
  by_cases hret : (answer w).ret = 0
  · simp only [hret, iff_true]
    by_cases hsucc : Succeeded (answer w)
    · simp [doRequest_succeeded _ _ b hsucc, hsucc]
    · obtain ⟨b', hrun, -⟩ := doRequest_refused (requestName req) req b hret hsucc
      simp [hrun, hsucc]
  · obtain ⟨b', hrun⟩ := doRequest_lost (requestName req) req b hret
    have hsucc : ¬Succeeded (answer w) := fun hsucc => hret hsucc.1
    simp [hrun, hsucc, hret]

end Requests

/-! ### Announcements -/

/-- The reply of the commands on a message. -/
def putMessage (replyTo : Tgev) (done : String) (b : Buf) : Fill Fault World Buf :=
  pure (snprintf b 0 RTB_SIZE (ascii "Message " ++ ascii (toString replyTo.header.msgId) ++ ascii done))

/-- The reply that a command composes when it takes its requests for successful. -/
def doneReply (cmd : ModCmd) (replyTo : Tgev) (reason : CharPtr) (b : Buf) : Fill Fault World Buf :=
  match cmd with
  | .ban => putBanned b replyTo reason
  | .unban => putHasBeen b replyTo "unbanned!" reason
  | .kick => putHasBeen b replyTo "kicked!" reason
  | .mute => putHasBeen b replyTo "muted!" reason
  | .unmute => putHasBeen b replyTo "unmuted!" reason
  | .pin => putMessage replyTo " has been pinned!" b
  | .unpin => putMessage replyTo " has been unpinned!" b
  | .delete => putMessage replyTo " has been deleted!" b
  | _ => crash .abort

def Announced (put : Buf → Fill Fault World Buf) (text : List UInt8) : Prop :=
  ∃ b w b' w', put b w = .next b' w' ∧ text = replyString b'

/-- The text says that the action was done. -/
def SaysDone (cmd : ModCmd) (replyTo : Tgev) (reason : CharPtr) : List UInt8 → Prop :=
  Announced (doneReply cmd replyTo reason)

/-- The first bytes of the replies that announce success: of a link, "(unknown)", "Banned" and
"Message". -/
def doneBytes : List UInt8 := [60, 40, 66, 77]

/-- The reply is composed where `named` holds, and it starts with one of the `doneBytes`. -/
structure Announces (named : Prop) (put : Buf → Fill Fault World Buf) : Prop where
  runs : named → ∀ b w, ∃ b', put b w = .next b' w ∧ b'.mem 0 ∈ doneBytes
  faults : ¬named → ∀ b w, ∃ e, put b w = .fault e w

section Announces

variable {named : Prop} {put : Buf → Fill Fault World Buf}

lemma Announces.head_mem (h : Announces named put) {text : List UInt8} (htext : Announced put text) :
    ∃ c ∈ doneBytes, text.head? = some c := by
  obtain ⟨b, w, b', w', hput, rfl⟩ := htext
  by_cases hnamed : named
  · obtain ⟨b'', hrun, hbyte⟩ := h.runs hnamed b w
    rw [hput, Outcome.next.injEq] at hrun
    rw [← hrun.1] at hbyte
    have hzero : b'.mem 0 ≠ 0 := fun hzero => absurd (hzero ▸ hbyte) (by decide)
    exact ⟨_, hbyte, replyString_head hzero⟩
  · obtain ⟨e, hrun⟩ := h.faults hnamed b w
    rw [hput] at hrun
    cases hrun

lemma announces_putTarget (replyTo : Tgev) (text : List UInt8) (c : UInt8) (other : List UInt8) (otherSps : ℕ)
    (reason : CharPtr) (hc : c ∈ doneBytes) :
    Announces (Named replyTo.sender?) (fun b => do
      let (b, pos, sps) ← putTarget b replyTo.sender? text (c :: other) otherSps
      pure (putReason b pos sps reason)) := by
  constructor
  · intro hnamed b w
    obtain ⟨⟨b', pos, sps⟩, hrun, hbyte, hpos⟩ := putTarget_named b text c other otherSps w hnamed
    refine ⟨putReason b' pos sps reason, ?_, ?_⟩
    · rw [bind_eq_next]
      exact ⟨_, _, hrun, rfl⟩
    · rw [putReason_mem_zero b' sps reason hpos]
      rcases hbyte with hbyte | hbyte
      · rw [hbyte]
        decide
      · rw [hbyte]
        exact hc
  · intro hnamed b w
    refine ⟨.strnlenNull, ?_⟩
    change Fill.bind _ _ w = _
    rw [Fill.bind, putTarget_unnamed b text (c :: other) otherSps w hnamed]

lemma announces_putHasBeen (replyTo : Tgev) (verb : String) (reason : CharPtr) :
    Announces (Named replyTo.sender?) (fun b => putHasBeen b replyTo verb reason) :=
  announces_putTarget replyTo _ 40 _ 0 reason (by decide)

lemma announces_putBanned (replyTo : Tgev) (reason : CharPtr) :
    Announces (Named replyTo.sender?) (fun b => putBanned b replyTo reason) :=
  announces_putTarget replyTo _ 66 _ 15 reason (by decide)

lemma announces_putMessage (replyTo : Tgev) (done : String) : Announces True (putMessage replyTo done) := by
  constructor
  · intro _ b w
    refine ⟨_, rfl, ?_⟩
    rw [show ascii "Message " = 77 :: ascii "essage " from rfl, List.cons_append, List.cons_append,
      snprintf_mem_zero b 77 _ (by decide)]
    decide
  · exact fun h => absurd trivial h

lemma cString_take_head {c : UInt8} (text : List UInt8) (hc : c ≠ 0) :
    (cString ((c :: text).take (RTB_SIZE - 1))).head? = some c := by
  have hsize : RTB_SIZE - 1 = 1022 + 1 := rfl
  rw [hsize, List.take_succ_cons, cString, List.takeWhile_cons_of_pos (by simpa using hc), List.head?_cons]

lemma refusal_head (json : Json) : ∃ c text, (c = 69 ∨ c = 67) ∧ refusal json = c :: text := by
  unfold refusal
  split
  · exact ⟨69, _, Or.inl rfl, rfl⟩
  · split
    · exact ⟨67, _, Or.inr rfl, rfl⟩
    · split
      · exact ⟨69, _, Or.inl rfl, rfl⟩
      · exact ⟨69, _, Or.inl rfl, rfl⟩

/-- An error text starts with "E" or "C". -/
lemma errorText_head (strerror : ℤ → List UInt8) (c : Request × Response) :
    (errorText strerror c).head? = some 69 ∨ (errorText strerror c).head? = some 67 := by
  unfold errorText
  dsimp only
  split
  · exact Or.inl (cString_take_head _ (by decide))
  · obtain ⟨first, text, hfirst, htext⟩ := refusal_head (c.2.body.getD .null)
    rw [htext, cString_take_head _ (by rcases hfirst with rfl | rfl <;> decide)]
    rcases hfirst with rfl | rfl
    · exact Or.inl rfl
    · exact Or.inr rfl

lemma Announces.not_announced (h : Announces named put) {text : List UInt8} {c : UInt8} (hhead : text.head? = some c)
    (hc : c ∉ doneBytes) : ¬Announced put text := by
  intro htext
  obtain ⟨c', hmem, hhead'⟩ := h.head_mem htext
  rw [hhead, Option.some.injEq] at hhead'
  exact hc (hhead' ▸ hmem)

lemma Announces.not_announced_error (h : Announces named put) (strerror : ℤ → List UInt8) (c : Request × Response) :
    ¬Announced put (errorText strerror c) := by
  rcases errorText_head strerror c with hhead | hhead
  · exact h.not_announced hhead (by decide)
  · exact h.not_announced hhead (by decide)

end Announces

/-! ### What a reply tells -/

/-- The text is the error text of the first request that failed, if one did. -/
def ReportsFailure (strerror : ℤ → List UInt8) (text : List UInt8) : List (Request × Response) → Prop
  | [] => True
  | c :: requests =>
    (¬Succeeded c.2 → text = errorText strerror c) ∧ (Succeeded c.2 → ReportsFailure strerror text requests)

/-- The text announces the action if and only if there were requests and they all succeeded, else it
is the error text. -/
def Tells (announced : List UInt8 → Prop) (strerror : ℤ → List UInt8) (requests : List (Request × Response))
    (text : List UInt8) : Prop :=
  (announced text ↔ requests ≠ [] ∧ ∀ c ∈ requests, Succeeded c.2) ∧ ReportsFailure strerror text requests

/-- The command returns zero after some moderation requests and one reply, which tells their outcome. -/
def Truthful (evt : TgevText Tgev) (announced : List UInt8 → Prop) (m : Fill Fault World ℤ) (w : World) : Prop :=
  ∃ w' requests text r, m w = .next 0 w' ∧
    w'.calls = w.calls ++ requests ++ [(.sendMessage evt.header.chat.id evt.header.msgId text, r)] ∧
    (∀ c ∈ requests, IsModeration c.1) ∧ Tells announced w.strerror requests text

lemma reportsFailure_of_succeeded (strerror : ℤ → List UInt8) (text : List UInt8) {requests : List (Request × Response)}
    (h : ∀ c ∈ requests, Succeeded c.2) : ReportsFailure strerror text requests := by
  induction requests with
  | nil => trivial
  | cons c requests ih =>
    rw [List.forall_mem_cons] at h
    exact ⟨fun hfail => absurd h.1 hfail, fun _ => ih h.2⟩

section Truthful

variable {evt : TgevText Tgev} {announced : List UInt8 → Prop} {m : Fill Fault World ℤ} {w w₁ : World}
  {requests : List (Request × Response)} {text : List UInt8}

lemma tells_of_announced {strerror : ℤ → List UInt8} (htext : announced text) (hne : requests ≠ []) :
    Tells announced strerror requests text ↔ ∀ c ∈ requests, Succeeded c.2 := by
  constructor
  · exact fun h => (h.1.mp htext).2
  · exact fun h => ⟨iff_of_true htext ⟨hne, h⟩, reportsFailure_of_succeeded strerror text h⟩

/-- An error text is right where it is the one of the first failing request. -/
lemma tells_of_failed {strerror : ℤ → List UInt8} (htext : ¬announced text)
    (hfail : ¬∀ c ∈ requests, Succeeded c.2) :
    Tells announced strerror requests text ↔ ReportsFailure strerror text requests := by
  have hiff : announced text ↔ requests ≠ [] ∧ ∀ c ∈ requests, Succeeded c.2 :=
    iff_of_false htext (fun h => hfail h.2)
  exact and_iff_right hiff

lemma truthful_iff_tells
    (hrun : m w = .next 0 (posted w₁ (.sendMessage evt.header.chat.id evt.header.msgId text)))
    (hcalls : w₁.calls = w.calls ++ requests) (hmod : ∀ c ∈ requests, IsModeration c.1) :
    Truthful evt announced m w ↔ Tells announced w.strerror requests text := by
  constructor
  · rintro ⟨w', requests', text', r, hrun', hcalls', -, htells⟩
    rw [hrun, Outcome.next.injEq] at hrun'
    rw [← hrun'.2, posted, hcalls] at hcalls'
    dsimp only at hcalls'
    obtain ⟨hrequests, hlast⟩ := List.append_inj' hcalls' rfl
    rw [List.append_cancel_left_eq] at hrequests
    simp only [List.cons.injEq, Prod.mk.injEq, Request.sendMessage.injEq, true_and, and_true] at hlast
    rw [hrequests, hlast.1]
    exact htells
  · intro htells
    refine ⟨_, requests, text, answer w₁, hrun, ?_, hmod, htells⟩
    rw [posted, hcalls]

lemma not_truthful_of_fault {e : Fault} (hrun : m w = .fault e w₁) : ¬Truthful evt announced m w := by
  rintro ⟨w', _, _, _, hrun', -⟩
  rw [hrun] at hrun'
  cases hrun'

end Truthful

/-! ### The shape of the commands -/

/-- Requests, then the error or the announcement. -/
def moderate (evt : TgevText Tgev) (call : Buf → Fill Fault World (Bool × Buf)) (put : Buf → Fill Fault World Buf) :
    Fill Fault World ℤ := do
  let b ← newReplyText
  let (tmp, b) ← call b
  if !tmp then
    sendReply evt.header.chat.id (replyString b) evt.header.msgId
    pure 0
  else
    let b ← put b
    sendReply evt.header.chat.id (replyString b) evt.header.msgId
    pure 0

section Moderate

variable {evt : TgevText Tgev} {named : Prop} {call : Buf → Fill Fault World (Bool × Buf)}
  {put : Buf → Fill Fault World Buf} {requests : List (Request × Response)} {w w₁ : World} {b : Buf}

/-- How `moderate` goes on after its requests. -/
lemma moderate_eq {ok : Bool} (hcall : call (Buf.fresh w.junk) w = .next (ok, b) w₁) :
    moderate evt call put w = (if !ok then (do
        sendReply evt.header.chat.id (replyString b) evt.header.msgId
        pure (0 : ℤ) : Fill Fault World ℤ)
      else do
        let b ← put b
        sendReply evt.header.chat.id (replyString b) evt.header.msgId
        pure 0) w₁ := by
  change Fill.bind (call (Buf.fresh w.junk)) _ w = _
  rw [Fill.bind, hcall]

/-- The requests were refused. -/
lemma truthful_of_refused (hcall : call (Buf.fresh w.junk) w = .next (false, b) w₁)
    (hcalls : w₁.calls = w.calls ++ requests) (hmod : ∀ c ∈ requests, IsModeration c.1) :
    Truthful evt (Announced put) (moderate evt call put) w ↔
      Tells (Announced put) w.strerror requests (replyString b) := by
  apply truthful_iff_tells _ hcalls hmod
  rw [moderate_eq hcall]
  rfl

/-- They were taken for successful. -/
lemma truthful_of_announced (hput : Announces named put) (hcall : call (Buf.fresh w.junk) w = .next (true, b) w₁)
    (hcalls : w₁.calls = w.calls ++ requests) (hmod : ∀ c ∈ requests, IsModeration c.1) (hne : requests ≠ []) :
    Truthful evt (Announced put) (moderate evt call put) w ↔ (∀ c ∈ requests, Succeeded c.2) ∧ named := by
  by_cases hnamed : named
  · obtain ⟨b', hrun, -⟩ := hput.runs hnamed b w₁
    have hall : moderate evt call put w =
        .next 0 (posted w₁ (.sendMessage evt.header.chat.id evt.header.msgId (replyString b'))) := by
      rw [moderate_eq hcall]
      change Fill.bind (put b) _ w₁ = _
      rw [Fill.bind, hrun]
      rfl
    have hdone : Announced put (replyString b') := ⟨b, w₁, b', w₁, hrun, rfl⟩
    rw [truthful_iff_tells hall hcalls hmod, tells_of_announced hdone hne, and_iff_left hnamed]
  · obtain ⟨e, hrun⟩ := hput.faults hnamed b w₁
    have hall : moderate evt call put w = .fault e w₁ := by
      rw [moderate_eq hcall]
      change Fill.bind (put b) _ w₁ = _
      rw [Fill.bind, hrun]
    simp only [hnamed, and_false, iff_false]
    exact not_truthful_of_fault hall

variable {req : Request}

/-- The commands with one request. -/
lemma moderate_truthful_iff (hput : Announces named put) (hcall : IsWrapper req call) (w : World) :
    Truthful evt (Announced put) (moderate evt call put) w ↔
      (answer w).ret = 0 ∧ (Succeeded (answer w) → named) := by
  have hmod : ∀ c ∈ [(req, answer w)], IsModeration c.1 := by simpa using hcall.isModeration
  have hne : [(req, answer w)] ≠ [] := List.cons_ne_nil _ _
  rw [hcall.eq_doRequest]
  by_cases hret : (answer w).ret = 0
  · by_cases hsucc : Succeeded (answer w)
    · rw [truthful_of_announced hput (doRequest_succeeded _ _ _ hsucc) rfl hmod hne]
      simp [hsucc, hret]
    · obtain ⟨b', hrun, htext⟩ := doRequest_refused (requestName req) req (Buf.fresh w.junk) hret hsucc
      have hfail : ¬∀ c ∈ [(req, answer w)], Succeeded c.2 := by simpa using hsucc
      rw [truthful_of_refused hrun rfl hmod, htext, tells_of_failed (hput.not_announced_error _ _) hfail]
      simp [ReportsFailure, hsucc, hret]
  · have hsucc : ¬Succeeded (answer w) := fun hsucc => hret hsucc.1
    obtain ⟨b', hrun⟩ := doRequest_lost (requestName req) req (Buf.fresh w.junk) hret
    rw [truthful_of_announced hput hrun rfl hmod hne]
    simp [hsucc, hret]

/-- The second request is made where the first one returned true. -/
def both (first second : Buf → Fill Fault World (Bool × Buf)) (b : Buf) : Fill Fault World (Bool × Buf) := do
  let (tmp, b) ← first b
  if !tmp then pure (false, b) else second b

variable {req' : Request} {call' : Buf → Fill Fault World (Bool × Buf)} {b' : Buf}

lemma both_of_false (h : call b w = .next (false, b') w₁) : both call call' b w = .next (false, b') w₁ := by
  change Fill.bind (call b) _ w = _
  rw [Fill.bind, h]
  rfl

lemma both_of_true (call' : Buf → Fill Fault World (Bool × Buf)) (h : call b w = .next (true, b') w₁) : both call call' b w = call' b' w₁ := by
  change Fill.bind (call b) _ w = _
  rw [Fill.bind, h]
  rfl

/-- Two requests tell the truth where both transports worked. Where the first one failed, the error of
the second one can only be right by having the same text. -/
def BothHeard (strerror : ℤ → List UInt8) (first second : Request × Response) : Prop :=
  (first.2.ret = 0 ∧ (Succeeded first.2 → second.2.ret = 0)) ∨
    (first.2.ret ≠ 0 ∧ second.2.ret = 0 ∧ ¬Succeeded second.2 ∧ errorText strerror first = errorText strerror second)

/-- The first request returned true. -/
lemma second_truthful_iff {b₁ : Buf} (hput : Announces True put) (hcall : IsWrapper req call)
    (hcall' : IsWrapper req' call') (hfirst : call (Buf.fresh w.junk) w = .next (true, b₁) (posted w req)) :
    Truthful evt (Announced put) (moderate evt (both call call') put) w ↔
      (answer (posted w req)).ret = 0 ∧ (Succeeded (answer w) ∨ ¬Succeeded (answer (posted w req)) ∧
        errorText w.strerror (req, answer w) = errorText w.strerror (req', answer (posted w req))) := by
  have hmod : ∀ c ∈ [(req, answer w), (req', answer (posted w req))], IsModeration c.1 := by
    simpa using ⟨hcall.isModeration, hcall'.isModeration⟩
  have hcalls : (posted (posted w req) req').calls =
      w.calls ++ [(req, answer w), (req', answer (posted w req))] := by
    simp [posted]
  have hne : [(req, answer w), (req', answer (posted w req))] ≠ [] := List.cons_ne_nil _ _
  have hboth := both_of_true call' hfirst
  rw [hcall'.eq_doRequest] at hboth ⊢
  by_cases hret : (answer (posted w req)).ret = 0
  · by_cases hsucc : Succeeded (answer (posted w req))
    · rw [doRequest_succeeded _ _ _ hsucc] at hboth
      rw [truthful_of_announced hput hboth hcalls hmod hne]
      simp [hret, hsucc]
    · obtain ⟨b₂, hrun, htext⟩ := doRequest_refused (requestName req') req' b₁ hret hsucc
      have hfail : ¬∀ c ∈ [(req, answer w), (req', answer (posted w req))], Succeeded c.2 := by simp [hsucc]
      rw [hrun] at hboth
      rw [truthful_of_refused hboth hcalls hmod, htext]
      change Tells _ w.strerror _ (errorText w.strerror _) ↔ _
      rw [tells_of_failed (hput.not_announced_error _ _) hfail]
      by_cases hsucc₁ : Succeeded (answer w)
      · simp [ReportsFailure, hret, hsucc, hsucc₁]
      · simp [ReportsFailure, hret, hsucc, hsucc₁, eq_comm]
  · have hsucc : ¬Succeeded (answer (posted w req)) := fun hsucc => hret hsucc.1
    obtain ⟨b₂, hrun⟩ := doRequest_lost (requestName req') req' b₁ hret
    rw [hrun] at hboth
    rw [truthful_of_announced hput hboth hcalls hmod hne]
    simp [hret, hsucc]

lemma both_truthful_iff (hput : Announces True put) (hcall : IsWrapper req call) (hcall' : IsWrapper req' call')
    (w : World) :
    Truthful evt (Announced put) (moderate evt (both call call') put) w ↔
      BothHeard w.strerror (req, answer w) (req', answer (posted w req)) := by
  by_cases hret : (answer w).ret = 0
  · by_cases hsucc : Succeeded (answer w)
    · have hfirst : call (Buf.fresh w.junk) w = .next (true, Buf.fresh w.junk) (posted w req) := by
        rw [hcall.eq_doRequest, doRequest_succeeded _ _ _ hsucc]
      rw [second_truthful_iff hput hcall hcall' hfirst]
      simp [BothHeard, hret, hsucc]
    · obtain ⟨b₁, hrun, htext⟩ := doRequest_refused (requestName req) req (Buf.fresh w.junk) hret hsucc
      have hmod : ∀ c ∈ [(req, answer w)], IsModeration c.1 := by simpa using hcall.isModeration
      have hfail : ¬∀ c ∈ [(req, answer w)], Succeeded c.2 := by simpa using hsucc
      rw [← hcall.eq_doRequest] at hrun
      rw [truthful_of_refused (both_of_false hrun) rfl hmod, htext,
        tells_of_failed (hput.not_announced_error _ _) hfail]
      simp [ReportsFailure, BothHeard, hret, hsucc]
  · have hsucc : ¬Succeeded (answer w) := fun hsucc => hret hsucc.1
    obtain ⟨b₁, hrun⟩ := doRequest_lost (requestName req) req (Buf.fresh w.junk) hret
    rw [← hcall.eq_doRequest] at hrun
    rw [second_truthful_iff hput hcall hcall' hrun]
    simp [BothHeard, hret, hsucc]

end Moderate

/-! ### The commands -/

section Commands

lemma execAdmCmdKick_run (evt : TgevText Tgev) (targetUid : ℕ) (reason : CharPtr) (w : World) :
    execAdmCmdKick evt targetUid reason false w = kickOrUnban evt targetUid reason false false w := by
  change Fill.bind _ _ w = _
  unfold Fill.bind
  cases kickOrUnban evt targetUid reason false false w with
  | fault e w' => rfl
  | ret code w' => rfl
  | next ret w' => simp [pure_eq_next]

variable {evt : TgevText Tgev} {replyTo : Tgev} (hreply : evt.replyTo = some replyTo)

include hreply

lemma kickOrUnban_eq (targetUid : ℕ) (reason : CharPtr) (isUnban : Bool) :
    kickOrUnban evt targetUid reason isUnban false = moderate evt (doUnban evt.header.chat.id targetUid isUnban)
      (fun b => putHasBeen b replyTo (if isUnban then "unbanned!" else "kicked!") reason) := by
  unfold kickOrUnban
  simp only [announce, hreply]
  rfl

lemma muteOrUnmute_eq (targetUid : ℕ) (reason : CharPtr) (isUnmute : Bool) :
    muteOrUnmute evt targetUid reason isUnmute =
      moderate evt (doMute evt.header.chat.id targetUid 0 (permissionsOf isUnmute))
        (fun b => putHasBeen b replyTo (if isUnmute then "unmuted!" else "muted!") reason) := by
  unfold muteOrUnmute
  simp only [announce, hreply]
  rfl

lemma execAdmCmdBan_eq (targetUid : ℕ) (reason : CharPtr) :
    execAdmCmdBan evt targetUid reason false = moderate evt (doKick evt.header.chat.id targetUid 0 true)
      (fun b => putBanned b replyTo reason) := by
  unfold execAdmCmdBan
  simp only [announce, hreply]
  rfl

lemma execOnReplied_hint (hint done : String) (request : ℕ → Buf → Fill Fault World (Bool × Buf)) (w : World)
    (hid : replyTo.header.msgId = 0) :
    execOnReplied evt hint request done w =
      .next 0 (posted w (.sendMessage evt.header.chat.id evt.header.msgId (ascii hint))) := by
  unfold execOnReplied
  simp only [hreply, hid, if_true]
  rfl

lemma execOnReplied_run (hint done : String) (request : ℕ → Buf → Fill Fault World (Bool × Buf)) (w : World)
    (hid : replyTo.header.msgId ≠ 0) :
    execOnReplied evt hint request done w =
      moderate evt (request replyTo.header.msgId) (putMessage replyTo done) w := by
  unfold execOnReplied
  simp only [hreply, if_neg hid]
  change Fill.bind (request _ _) _ w = Fill.bind (request _ _) _ w
  unfold Fill.bind
  cases request replyTo.header.msgId (Buf.fresh w.junk) w with
  | fault e w' => rfl
  | ret code w' => rfl
  | next r w' =>
    obtain ⟨tmp, b⟩ := r
    cases tmp <;> rfl

/-- A hint is sent without a request, and it is no announcement. -/
lemma execOnReplied_truthful_iff (done : String) {hint : String} {text : List UInt8} {c : UInt8}
    (request : ℕ → Buf → Fill Fault World (Bool × Buf)) (w : World) (hhint : ascii hint = c :: text) (hc : c ∉ doneBytes) :
    Truthful evt (Announced (putMessage replyTo done)) (execOnReplied evt hint request done) w ↔
      (replyTo.header.msgId ≠ 0 →
        Truthful evt (Announced (putMessage replyTo done))
          (moderate evt (request replyTo.header.msgId) (putMessage replyTo done)) w) := by
  by_cases hid : replyTo.header.msgId = 0
  · have hnot : ¬Announced (putMessage replyTo done) (ascii hint) := by
      apply (announces_putMessage replyTo done).not_announced _ hc
      rw [hhint, List.head?_cons]
    rw [truthful_iff_tells (execOnReplied_hint hreply hint done request w hid) (List.append_nil _).symm (by simp)]
    simp [Tells, ReportsFailure, hnot, hid]
  · simp only [ne_eq, hid, not_false_eq_true, true_implies]
    unfold Truthful
    rw [execOnReplied_run hreply hint done request w hid]

end Commands

/-- The commands that reply. -/
def replying : List ModCmd := [.ban, .unban, .kick, .mute, .unmute, .pin, .unpin, .delete]

/-- The transport worked for each request, and the name that an announcement needs is there. -/
def Heard (evt : TgevText Tgev) (replyTo : Tgev) (cmd : ModCmd) (w : World) : Prop :=
  let first := w.respond w.calls.length
  let second := w.respond (w.calls.length + 1)
  match cmd with
  | .pin => replyTo.header.msgId ≠ 0 → first.ret = 0
  | .unpin => replyTo.header.msgId ≠ 0 → first.ret = 0
  | .delete => replyTo.header.msgId ≠ 0 →
    BothHeard w.strerror (.deleteMessage evt.header.chat.id replyTo.header.msgId, first)
      (.deleteMessage evt.header.chat.id evt.header.msgId, second)
  | _ => first.ret = 0 ∧ (Succeeded first → Named replyTo.sender?)

lemma answer_posted (w : World) (req : Request) : answer (posted w req) = w.respond (w.calls.length + 1) := by
  simp [answer, posted]

theorem execCmd_truthful_iff {evt : TgevText Tgev} {replyTo : Tgev} (hreply : evt.replyTo = some replyTo) {cmd : ModCmd}
    (hcmd : cmd ∈ replying) (targetUid : ℕ) (reason : CharPtr) (w : World) :
    Truthful evt (SaysDone cmd replyTo reason) (execCmd evt cmd targetUid reason) w ↔ Heard evt replyTo cmd w := by
  have hone : ∀ {req : Request} {call : Buf → Fill Fault World (Bool × Buf)} (done : String), IsWrapper req call →
      (Truthful evt (Announced (putMessage replyTo done)) (moderate evt call (putMessage replyTo done)) w ↔
        (answer w).ret = 0) := by
    intro req call done hcall
    rw [moderate_truthful_iff (announces_putMessage replyTo done) hcall w]
    exact and_iff_left (fun _ => trivial)
  cases cmd with
  | ban =>
    change Truthful evt _ (execAdmCmdBan evt targetUid reason false) w ↔ _
    rw [execAdmCmdBan_eq hreply]
    exact moderate_truthful_iff (announces_putBanned replyTo reason) (.kick _ _ _ _) w
  | unban =>
    change Truthful evt _ (kickOrUnban evt targetUid reason true false) w ↔ _
    rw [kickOrUnban_eq hreply]
    exact moderate_truthful_iff (announces_putHasBeen replyTo _ reason) (.unban _ _ _) w
  | kick =>
    unfold Truthful
    change (∃ w' requests text r, execAdmCmdKick evt targetUid reason false w = _ ∧ _) ↔ _
    rw [execAdmCmdKick_run, kickOrUnban_eq hreply]
    exact moderate_truthful_iff (announces_putHasBeen replyTo _ reason) (.unban _ _ _) w
  | mute =>
    change Truthful evt _ (muteOrUnmute evt targetUid reason false) w ↔ _
    rw [muteOrUnmute_eq hreply]
    exact moderate_truthful_iff (announces_putHasBeen replyTo _ reason) (.mute _ _ _ _) w
  | unmute =>
    change Truthful evt _ (muteOrUnmute evt targetUid reason true) w ↔ _
    rw [muteOrUnmute_eq hreply]
    exact moderate_truthful_iff (announces_putHasBeen replyTo _ reason) (.mute _ _ _ _) w
  | pin =>
    change Truthful evt _ (execAdmCmdPin evt) w ↔ _
    rw [execAdmCmdPin]
    refine (execOnReplied_truthful_iff hreply " has been pinned!" _ w rfl (by decide)).trans ?_
    exact imp_congr_right (fun _ => hone _ (.pin _ _ _))
  | unpin =>
    change Truthful evt _ (execAdmCmdUnpin evt) w ↔ _
    rw [execAdmCmdUnpin]
    refine (execOnReplied_truthful_iff hreply " has been unpinned!" _ w rfl (by decide)).trans ?_
    exact imp_congr_right (fun _ => hone _ (.unpin _ _))
  | delete =>
    change Truthful evt _ (execAdmCmdDelete evt) w ↔ _
    rw [execAdmCmdDelete]
    refine (execOnReplied_truthful_iff hreply " has been deleted!" _ w rfl (by decide)).trans ?_
    apply imp_congr_right
    intro _
    refine (both_truthful_iff (announces_putMessage replyTo _) (.delMsg _ _) (.delMsg _ _) w).trans ?_
    rw [answer_posted]
    exact Iff.rfl
  | _ => exact absurd hcmd (by decide)

def banTarget : Tgev where
  msg := .text { header := { msgId := 8, sender := { id := 7, firstName := some (ascii "Spam") }, chat := { id := -5 } } }

def banEvent : TgevText Tgev where
  header := { msgId := 9, sender := { id := 133862899, firstName := some (ascii "Admin") }, chat := { id := -5 } }
  text := some (ascii "/ban")
  replyTo := some banTarget

def okResponse : Response where
  ret := 0
  body := some (.object [(ascii "ok", .bool true)])
  allocated _ := rfl

/-- `curl_easy_perform` failed. -/
def lostResponse : Response where
  ret := -EBADMSG
  body := some .null
  allocated _ := rfl

def banWorld (first : Response) : World where
  respond i := if i = 0 then first else okResponse
  strerror _ := ascii "Bad message"
  junk _ := 0
  calls := []

end GNUWeebBot.Proofs
