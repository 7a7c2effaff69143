import GNUWeebBot.Lib.Lockstep
import GNUWeebBot.Proofs.Keywords

/-!
# White space behind a command

White space at the end of a text makes an empty reason of no reason. The commands only put the reason
into their replies; but a report without a replied-to message is canceled for it.
-/

namespace GNUWeebBot.Proofs

open Fill Words

/-! ### The text -/

section Text

variable {ws : List UInt8} (hws : ∀ c ∈ ws, isWs c = true)

include hws

lemma ended_append {rest : List UInt8} (hrest : Ended rest) : Ended (rest ++ ws) := by
  cases rest with
  | nil => exact fun c hc => hws c (List.mem_of_head? hc)
  | cons c rest => exact hrest

lemma wordOf_append_ws (tx : List UInt8) : wordOf (tx ++ ws) = wordOf tx := by
  obtain ⟨rest, htx, hrest⟩ := exists_word tx
  have hword : ∀ c ∈ wordOf tx, isWs c = false := fun c hc => by simpa using List.mem_takeWhile_imp hc
  have happend := wordOf_append hword (ended_append hws hrest)
  rwa [← List.append_assoc, ← htx] at happend

lemma wordEnds_append (rest : List UInt8) : wordEnds (rest ++ ws) = wordEnds rest := by
  cases rest with
  | nil => exact wordEnds_iff.mpr (ended_append hws (fun _ hc => nomatch hc))
  | cons c rest => rfl

/-- The `s` of the plural is no white space. -/
lemma afterAdmin_append {tx : List UInt8} (hfive : 5 ≤ tx.length) : afterAdmin (tx ++ ws) = afterAdmin tx ++ ws := by
  unfold afterAdmin
  rw [List.drop_append_of_le_length hfive]
  rcases Nat.eq_or_lt_of_le hfive with heq | hlt
  · have hnil : tx.drop 5 = [] := List.drop_eq_nil_of_le (Nat.le_of_eq heq.symm)
    have hnot : ws.head? ≠ some 115 := by
      intro hs
      exact absurd (hws 115 (List.mem_of_head? hs)) (by decide)
    rw [hnil, List.nil_append, if_neg hnot, List.head?_nil, if_neg (by simp), List.nil_append]
  · have hhead : (tx.drop 5 ++ ws).head? = (tx.drop 5).head? := by
      rw [List.drop_eq_getElem_cons hlt]
      rfl
    rw [hhead, List.drop_append_of_le_length hlt]
    split <;> rfl

lemma isAnAdminMention_append (t : List UInt8) : isAnAdminMention (t ++ ws) = isAnAdminMention t := by
  cases t with
  | nil =>
    cases ws with
    | nil => rfl
    | cons c ws =>
      refine isAnAdminMention_of_ne ?_ ws
      rintro rfl
      exact absurd (hws 64 List.mem_cons_self) (by decide)
  | cons c tx =>
    by_cases hat : c = 64
    · subst hat
      rw [List.cons_append, isAnAdminMention_at, isAnAdminMention_at, wordOf_append_ws hws]
      cases hstart : (ascii "admin").isPrefixOf ((wordOf tx).map toLower) with
      | false => rw [Bool.and_false, Bool.false_and, Bool.false_and]
      | true => rw [afterAdmin_append hws (length_le_of_isPrefixOf hstart), wordEnds_append hws]
    · rw [List.cons_append, isAnAdminMention_of_ne hat, isAnAdminMention_of_ne hat]

/-- A keyword is found as before, and what is behind it starts with white space as before or does so now. -/
lemma parseCommand_append_mark (hne : ws ≠ []) {mark : UInt8} (hmark : mark ∈ ascii "!/.~") (tx : List UInt8) :
    (parseCommand (mark :: tx) = none ∧ parseCommand (mark :: (tx ++ ws)) = none) ∨
      ∃ cmd reason after, parseCommand (mark :: tx) = some (cmd, reason, false) ∧
        parseCommand (mark :: (tx ++ ws)) = some (cmd, some after, false) := by
  rw [parseCommand_mark hmark, parseCommand_mark hmark, strtolowerCp_eq, strtolowerCp_eq, wordOf_append_ws hws]
  by_cases hshort : (wordOf tx).length ≤ 8
  · rw [if_pos hshort]
    dsimp only
    cases hfind : keywords.find? (fun k => (ascii k.1).isPrefixOf ((wordOf tx).map toLower)) with
    | none => exact Or.inl ⟨rfl, rfl⟩
    | some k =>
      obtain ⟨keyword, cmd⟩ := k
      dsimp only
      rw [List.drop_append_of_le_length (length_le_of_find hfind)]
      cases tx.drop keyword.length with
      | nil =>
        obtain ⟨c, ws', rfl⟩ := List.exists_cons_of_ne_nil hne
        rw [List.nil_append]
        dsimp only
        rw [hws c List.mem_cons_self, if_neg (by decide)]
        exact Or.inr ⟨cmd, none, _, rfl, rfl⟩
      | cons c after =>
        rw [List.cons_append]
        dsimp only
        cases isWs c with
        | false => exact Or.inl ⟨rfl, rfl⟩
        | true => exact Or.inr ⟨cmd, _, _, rfl, rfl⟩
  · rw [if_neg hshort]
    exact Or.inl ⟨rfl, rfl⟩

/-- The text is read as before, but for a reason that may be empty now. -/
lemma parseCommand_append (hne : ws ≠ []) (t : List UInt8) :
    (parseCommand t = none ∧ parseCommand (t ++ ws) = none) ∨
      (parseCommand t = some (.report, none, true) ∧ parseCommand (t ++ ws) = some (.report, none, true)) ∨
      ∃ cmd reason after, parseCommand t = some (cmd, reason, false) ∧ parseCommand (t ++ ws) = some (cmd, some after, false) := by
  cases t with
  | nil =>
    obtain ⟨c, ws', rfl⟩ := List.exists_cons_of_ne_nil hne
    have hc : c ∉ ascii "!/.~" :=
      forall_byte (P := fun c => isWs c = true → c ∉ ascii "!/.~") (by decide +kernel) c (hws c List.mem_cons_self)
    have hnot : isAnAdminMention (c :: ws') = false := isAnAdminMention_append hws []
    rw [List.nil_append, parseCommand_no_mark hc, hnot]
    exact Or.inl ⟨rfl, rfl⟩
  | cons mark tx =>
    rw [List.cons_append]
    by_cases hmark : mark ∈ ascii "!/.~"
    · exact (parseCommand_append_mark hws hne hmark tx).imp_right Or.inr
    · have hsame : isAnAdminMention (mark :: (tx ++ ws)) = isAnAdminMention (mark :: tx) :=
        isAnAdminMention_append hws (mark :: tx)
      rw [parseCommand_no_mark hmark, parseCommand_no_mark hmark, hsame]
      cases isAnAdminMention (mark :: tx) with
      | false => exact Or.inl ⟨rfl, rfl⟩
      | true => exact Or.inr (Or.inl ⟨rfl, rfl⟩)

/-- White space is no NUL, at which the text would end. -/
lemma cString_append (t : List UInt8) : cString (t ++ ws) = if 0 ∈ t then cString t else t ++ ws := by
  by_cases hzero : 0 ∈ t
  · have hshort : ¬(t.takeWhile (fun c => c != 0)).length = t.length := by
      intro hlen
      have hself := (List.takeWhile_prefix _).eq_of_length hlen
      exact absurd (List.takeWhile_eq_self_iff.mp hself 0 hzero) (by decide)
    rw [if_pos hzero, cString, List.takeWhile_append, if_neg hshort, cString]
  · have hblank : 0 ∉ ws := fun hw => absurd (hws 0 hw) (by decide)
    rw [if_neg hzero, cString_self]
    rw [List.mem_append, not_or]
    exact ⟨hzero, hblank⟩

end Text

/-! ### What is run -/

/-- The event with another text. -/
def withText (evt : TgevText Tgev) (text : List UInt8) : TgevText Tgev := { evt with text := some text }

/-- The command, its target and the reason with which the entry gets to `out_run_priv_chk`. -/
def selected (evt : TgevText Tgev) (text : List UInt8) : Option (ModCmd × ℕ × CharPtr) :=
  match parseCommand (cString text) with
  | none => none
  | some (cmd, _, true) => some (cmd, 0, none)
  | some (cmd, reason, false) =>
    match evt.replyTo with
    | none => if reason.isNone ∧ cmd = .report then some (cmd, 0, none) else none
    | some replyTo => some (cmd, replyTo.header.sender.id, reason)

lemma adminEntry_withText (evt : TgevText Tgev) (text : List UInt8) :
    adminEntry (withText evt text) =
      (selected evt text).elim (pure (-ECANCELED)) (fun c => runPrivChk evt c.1 c.2.1 c.2.2) := by
  have hrun : ∀ cmd uid reason, runPrivChk (withText evt text) cmd uid reason = runPrivChk evt cmd uid reason :=
    fun _ _ _ => rfl
  obtain ⟨header, _, entityC, entities, replyTo⟩ := evt
  unfold adminEntry selected
  dsimp only [withText] at hrun ⊢
  cases parseCommand (cString text) with
  | none => rfl
  | some c =>
    obtain ⟨cmd, reason, mention⟩ := c
    cases mention with
    | true => exact hrun cmd 0 none
    | false =>
      cases replyTo with
      | none =>
        dsimp only
        split
        · exact hrun cmd 0 none
        · rfl
      | some replyTo => exact hrun cmd replyTo.header.sender.id reason

/-! ### Requests apart from their texts -/

/-- A request without the text of a message. -/
def bareRequest : Request → Request
  | .sendMessage chatId msgId _ => .sendMessage chatId msgId []
  | req => req

def SameRequests (w w' : World) : Prop :=
  w.calls.map (fun c => bareRequest c.1) = w'.calls.map (fun c => bareRequest c.1)

/-- Both values say that the message was handled, or both that it was not. -/
def SameClass (ret ret' : ℤ) : Prop := ret = -ECANCELED ↔ ret' = -ECANCELED

/-- The entry runs the same command on the same target, with the same requests. -/
structure SameCommand (evt : TgevText Tgev) (w : World) (t t' : List UInt8) : Prop where
  selects : (selected evt t').map (fun c => (c.1, c.2.1)) = (selected evt t).map (fun c => (c.1, c.2.1))
  runs : Outcome.Alike SameRequests SameClass (adminEntry (withText evt t) w) (adminEntry (withText evt t') w)

lemma sameRequests_refl (w : World) : SameRequests w w := rfl

lemma alike_self {m : Fill Fault World ℤ} {w : World} : Outcome.Alike SameRequests SameClass (m w) (m w) :=
  alike_refl (V := SameClass) sameRequests_refl (fun _ => Iff.rfl) (m w)

section Reason

variable (evt : TgevText Tgev) (reason reason' : CharPtr) (w : World)

lemma alike_reply (text text' : List UInt8) (ret : ℤ) :
    Outcome.Alike SameRequests SameClass
      ((do sendReply evt.header.chat.id text evt.header.msgId; pure ret : Fill Fault World ℤ) w)
      ((do sendReply evt.header.chat.id text' evt.header.msgId; pure ret : Fill Fault World ℤ) w) := by
  apply Outcome.Alike.next
  · exact Iff.rfl
  · simp only [SameRequests, List.map_append, List.map_cons, List.map_nil, bareRequest]

/-- A reply that announces success, with the one reason or the other. -/
lemma alike_announce (put : CharPtr → Buf → Tgev → Fill Fault World Buf)
    (hput : ∀ b replyTo w, Outcome.Alike Eq (fun _ _ => True) (put reason b replyTo w) (put reason' b replyTo w)) (b : Buf) :
    Outcome.Alike SameRequests SameClass
      ((do
        let b ← announce evt (put reason) b
        sendReply evt.header.chat.id (replyString b) evt.header.msgId
        pure 0 : Fill Fault World ℤ) w)
      ((do
        let b ← announce evt (put reason') b
        sendReply evt.header.chat.id (replyString b) evt.header.msgId
        pure 0 : Fill Fault World ℤ) w) := by
  have hannounce : Outcome.Alike Eq (fun _ _ => True) (announce evt (put reason) b w) (announce evt (put reason') b w) := by
    unfold announce
    cases evt.replyTo with
    | none => exact .next trivial rfl
    | some replyTo => exact hput b replyTo w
  apply alike_bind hannounce
  · rintro s _ rfl
    exact sameRequests_refl s
  · rintro b b' s _ - rfl
    exact alike_reply evt s _ _ 0

/-- The runs go on alike behind the same request. -/
lemma alike_request {init : Fill Fault World Buf} {req : Buf → Fill Fault World (Bool × Buf)}
    {next next' : Bool × Buf → Fill Fault World ℤ}
    (hnext : ∀ tmp b w, Outcome.Alike SameRequests SameClass (next (tmp, b) w) (next' (tmp, b) w)) :
    Outcome.Alike SameRequests SameClass ((init >>= fun b => req b >>= next) w) ((init >>= fun b => req b >>= next') w) := by
  apply alike_bind_same sameRequests_refl
  intro b w
  apply alike_bind_same sameRequests_refl
  rintro ⟨tmp, b⟩ w
  exact hnext tmp b w

lemma alike_putHasBeen (verb : String) (b : Buf) (replyTo : Tgev) (w : World) :
    Outcome.Alike Eq (fun _ _ => True) (putHasBeen b replyTo verb reason w) (putHasBeen b replyTo verb reason' w) :=
  alike_bind_same (fun _ => rfl) (fun _ _ => .next trivial rfl)

lemma alike_putBanned (b : Buf) (replyTo : Tgev) (w : World) :
    Outcome.Alike Eq (fun _ _ => True) (putBanned b replyTo reason w) (putBanned b replyTo reason' w) :=
  alike_bind_same (fun _ => rfl) (fun _ _ => .next trivial rfl)

variable (targetUid : ℕ)

lemma alike_kickOrUnban (isUnban silent : Bool) :
    Outcome.Alike SameRequests SameClass (kickOrUnban evt targetUid reason isUnban silent w)
      (kickOrUnban evt targetUid reason' isUnban silent w) := by
  apply alike_request
  intro tmp b w
  dsimp only
  split
  · exact alike_self
  · split
    · exact alike_self
    · exact alike_announce evt reason reason' w
        (fun reason b replyTo => putHasBeen b replyTo (if isUnban then "unbanned!" else "kicked!") reason)
        (alike_putHasBeen reason reason' _) b

lemma alike_muteOrUnmute (isUnmute : Bool) :
    Outcome.Alike SameRequests SameClass (muteOrUnmute evt targetUid reason isUnmute w)
      (muteOrUnmute evt targetUid reason' isUnmute w) := by
  apply alike_request
  intro tmp b w
  dsimp only
  split
  · exact alike_self
  · exact alike_announce evt reason reason' w
      (fun reason b replyTo => putHasBeen b replyTo (if isUnmute then "unmuted!" else "muted!") reason)
      (alike_putHasBeen reason reason' _) b

lemma alike_ban (silent : Bool) :
    Outcome.Alike SameRequests SameClass (execAdmCmdBan evt targetUid reason silent w)
      (execAdmCmdBan evt targetUid reason' silent w) := by
  apply alike_request
  intro tmp b w
  dsimp only
  split
  · exact alike_self
  · split
    · exact alike_self
    · exact alike_announce evt reason reason' w (fun reason b replyTo => putBanned b replyTo reason)
        (alike_putBanned reason reason') b

/-- The silent kick goes on after `kick_or_unban`, which puts no reason anywhere then. -/
lemma alike_kick (silent : Bool) :
    Outcome.Alike SameRequests SameClass (execAdmCmdKick evt targetUid reason silent w)
      (execAdmCmdKick evt targetUid reason' silent w) := by
  cases silent with
  | true => exact alike_self
  | false =>
    apply alike_bind (alike_kickOrUnban evt reason reason' w targetUid false false) (fun _ _ h => h)
    intro ret ret' w w' hret hw
    rw [if_neg (by simp), if_neg (by simp)]
    exact .next hret hw

lemma alike_execCmd (cmd : ModCmd) :
    Outcome.Alike SameRequests SameClass (execCmd evt cmd targetUid reason w) (execCmd evt cmd targetUid reason' w) := by
  cases cmd with
  | ban => exact alike_ban evt reason reason' w targetUid false
  | sban => exact alike_ban evt reason reason' w targetUid true
  | unban => exact alike_kickOrUnban evt reason reason' w targetUid true false
  | kick => exact alike_kick evt reason reason' w targetUid false
  | skick => exact alike_kick evt reason reason' w targetUid true
  | mute => exact alike_muteOrUnmute evt reason reason' w targetUid false
  | unmute => exact alike_muteOrUnmute evt reason reason' w targetUid true
  | _ => exact alike_self

lemma alike_runPrivChk (cmd : ModCmd) :
    Outcome.Alike SameRequests SameClass (runPrivChk evt cmd targetUid reason w)
      (runPrivChk evt cmd targetUid reason' w) := by
  unfold runPrivChk
  split
  · apply alike_bind_same sameRequests_refl
    intro privileged w
    cases privileged with
    | false => exact alike_self
    | true => exact alike_execCmd evt reason reason' w targetUid cmd
  · exact alike_execCmd evt reason reason' w targetUid cmd

end Reason

/-! ### The two runs -/

section Runs

variable (evt : TgevText Tgev) {t ws : List UInt8} (hne : ws ≠ []) (hws : ∀ c ∈ ws, isWs c = true)

lemma zero_not_mem_of_recognised {cmd : ModCmd} (h : Recognised t cmd none) : 0 ∉ t := by
  generalize hreason : (none : CharPtr) = reason at h
  cases h with
  | @mk mark word rest keyword cmd reason hmark hkeyword hlower hfollows =>
    subst hreason
    cases hfollows
    rw [List.append_nil, List.mem_cons, not_or]
    constructor
    · rintro rfl
      exact absurd hmark (by decide)
    · intro hzero
      refine zero_not_mem_keyword _ hkeyword ?_
      rw [← hlower]
      exact List.mem_map_of_mem (f := toLower) hzero

include hne hws

/-- The white space is taken for a reason. -/
lemma selected_report (hreply : evt.replyTo = none) (h : Recognised t .report none) :
    selected evt t = some (.report, 0, none) ∧ selected evt (t ++ ws) = none := by
  have hzero := zero_not_mem_of_recognised h
  have hparse : parseCommand t = some (.report, none, false) := parseCommand_iff.mpr ⟨h, by decide⟩
  unfold selected
  rw [cString_self hzero, cString_append hws, if_neg hzero, hreply]
  rcases parseCommand_append hws hne t with ⟨hnone, -⟩ | ⟨hmention, -⟩ | ⟨cmd, reason, after, hplain, happend⟩
  · rw [hparse] at hnone
    cases hnone
  · rw [hparse] at hmention
    cases hmention
  · rw [hparse] at hplain
    cases hplain
    rw [hparse, happend]
    exact ⟨rfl, rfl⟩

/-- Elsewhere the command and the target stay the same. -/
lemma selected_append (h : ¬(evt.replyTo = none ∧ Recognised t .report none)) :
    (selected evt t = none ∧ selected evt (t ++ ws) = none) ∨
      ∃ cmd targetUid reason reason', selected evt t = some (cmd, targetUid, reason) ∧
        selected evt (t ++ ws) = some (cmd, targetUid, reason') := by
  by_cases hzero : 0 ∈ t
  · have hsame : selected evt (t ++ ws) = selected evt t := by
      unfold selected
      rw [cString_append hws, if_pos hzero]
    rw [hsame]
    cases selected evt t with
    | none => exact Or.inl ⟨rfl, rfl⟩
    | some c => exact Or.inr ⟨c.1, c.2.1, c.2.2, c.2.2, rfl, rfl⟩
  · unfold selected
    rw [cString_self hzero, cString_append hws, if_neg hzero]
    rcases parseCommand_append hws hne t with ⟨hnone, happend⟩ | ⟨hmention, happend⟩ | ⟨cmd, reason, after, hplain, happend⟩
    · rw [hnone, happend]
      exact Or.inl ⟨rfl, rfl⟩
    · rw [hmention, happend]
      exact Or.inr ⟨.report, 0, none, none, rfl, rfl⟩
    · rw [hplain, happend]
      cases hreply : evt.replyTo with
      | some replyTo => exact Or.inr ⟨cmd, replyTo.header.sender.id, reason, some after, rfl, rfl⟩
      | none =>
        have hnot : ¬(reason.isNone = true ∧ cmd = .report) := by
          rintro ⟨hreason, rfl⟩
          obtain rfl := Option.isNone_iff_eq_none.mp hreason
          exact h ⟨hreply, (parseCommand_iff.mp hplain).1⟩
        dsimp only
        rw [if_neg hnot]
        exact Or.inl ⟨rfl, rfl⟩

/-- White space behind a text changes nothing but for a report that has no replied-to message. -/
theorem trailing_blanks_ignored_iff (w : World) :
    SameCommand evt w t (t ++ ws) ↔ ¬(evt.replyTo = none ∧ Recognised t .report none) := by
  constructor
  · rintro h ⟨hreply, hreport⟩
    have hselects := h.selects
    obtain ⟨hplain, happend⟩ := selected_report evt hne hws hreply hreport
    rw [hplain, happend] at hselects
    cases hselects
  · intro h
    rcases selected_append evt hne hws h with ⟨hplain, happend⟩ | ⟨cmd, targetUid, reason, reason', hplain, happend⟩
    · constructor
      · rw [hplain, happend]
      · rw [adminEntry_withText, adminEntry_withText, hplain, happend]
        exact alike_self
    · constructor
      · rw [hplain, happend]
        rfl
      · rw [adminEntry_withText, adminEntry_withText, hplain, happend]
        exact alike_runPrivChk evt reason reason' w targetUid cmd

end Runs

/-- A world without network. -/
def offline : World := ⟨fun _ => ⟨-ENETDOWN, none, fun h => absurd h (by decide)⟩, fun _ => [], fun _ => 0, []⟩

theorem trailing_blanks_ignored_ban :
    SameCommand { replyTo := some {} } offline (ascii "/ban") (ascii "/ban" ++ ascii " ") := by
  refine (trailing_blanks_ignored_iff _ (by decide) (List.all_iff_forall_prop.mp (by decide)) offline).mpr ?_
  exact fun h => absurd h.1 (by simp)

/-- A space behind `/report` turns the report off. -/
theorem report_lost_to_blank :
    adminEntry (withText {} (ascii "/report ")) offline = .next (-ECANCELED) offline ∧
    (∃ w, adminEntry (withText {} (ascii "/report")) offline = .next 0 w ∧ w.calls.length = 2) ∧
    ¬SameCommand {} offline (ascii "/report") (ascii "/report" ++ ascii " ") := by
  refine ⟨rfl, ⟨_, rfl, rfl⟩, fun h => ?_⟩
  exact absurd h.selects (by decide)

end GNUWeebBot.Proofs
