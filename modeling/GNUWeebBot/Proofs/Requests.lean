import GNUWeebBot.Model.Requests
import GNUWeebBot.Proofs.JsonFormat

/-!
# A request says what it was made from

Every `tga_*` function writes into a buffer of its own. The body fits into it, and what a server reads out
of the body are the values of the context.
-/

namespace GNUWeebBot.Proofs

open FormUrl JsonText

/-! ### Forms of fields that need no encoding -/

/-- Text that a form has as it is. -/
def IsPlain (s : List UInt8) : Prop := ∀ c ∈ s, c ≠ 43 ∧ c ≠ 37 ∧ c ≠ 38 ∧ c ≠ 61 ∧ c ≠ 0

instance (s : List UInt8) : Decidable (IsPlain s) :=
  decidable_of_iff (s.all (fun c => decide (c ≠ 43 ∧ c ≠ 37 ∧ c ≠ 38 ∧ c ≠ 61 ∧ c ≠ 0)) = true)
    ⟨FormUrl.forall_mem_of_all, fun h => List.all_eq_true.mpr fun c hc => decide_eq_true (h c hc)⟩

lemma isPlain_decimal {s : List UInt8} (h : ∀ c ∈ s, IsDecimal c) : IsPlain s := fun c hc => (h c hc).clean

lemma isPlain_chatId (chatId : Int64) : IsPlain (ascii (toString chatId.toInt)) := isPlain_decimal (decimal_int _)

lemma isPlain_decimalU64 (n : UInt64) : IsPlain (decimalU64 n) := isPlain_decimal (decimal_nat _)

lemma isPlain_decimalBool (b : Bool) : IsPlain (decimalBool b) := by
  cases b <;> decide

def formText (fields : List (List UInt8 × List UInt8)) : List UInt8 := [38].intercalate (fields.map joinField)

lemma formText_cons (f g : List UInt8 × List UInt8) (fields : List (List UInt8 × List UInt8)) :
    formText (f :: g :: fields) = joinField f ++ 38 :: formText (g :: fields) := by
  simp [formText, List.intercalate]

lemma formText_singleton (f : List UInt8 × List UInt8) : formText [f] = joinField f := by
  simp [formText, List.intercalate]

section FormText

variable {fields : List (List UInt8 × List UInt8)}

lemma formDecode_formText (hne : fields ≠ []) (hplain : ∀ f ∈ fields, IsPlain f.1 ∧ IsPlain f.2) :
    formDecode (formText fields) = fields := by
  rw [formText, formDecode_join hne]
  · conv_rhs => rw [← List.map_id fields]
    apply List.map_congr_left
    intro f hf
    rw [id_eq, percentDecode_of_plain (fun c hc => ⟨((hplain f hf).1 c hc).1, ((hplain f hf).1 c hc).2.1⟩),
      percentDecode_of_plain (fun c hc => ⟨((hplain f hf).2 c hc).1, ((hplain f hf).2 c hc).2.1⟩)]
  · intro f hf
    exact ⟨fun h => ((hplain f hf).1 38 h).2.2.1 rfl, fun h => ((hplain f hf).1 61 h).2.2.2.1 rfl,
      fun h => ((hplain f hf).2 38 h).2.2.1 rfl⟩

lemma zero_not_mem_formText (hplain : ∀ f ∈ fields, IsPlain f.1 ∧ IsPlain f.2) : 0 ∉ formText fields := by
  induction fields with
  | nil => exact List.not_mem_nil
  | cons f fields ih =>
    rw [List.forall_mem_cons] at hplain
    have hfield : 0 ∉ joinField f := by
      intro hmem
      rw [joinField, List.mem_append, List.mem_cons] at hmem
      rcases hmem with hmem | hmem | hmem
      · exact (hplain.1.1 0 hmem).2.2.2.2 rfl
      · cases hmem
      · exact (hplain.1.2 0 hmem).2.2.2.2 rfl
    cases fields with
    | nil =>
      rw [formText_singleton]
      exact hfield
    | cons g fields =>
      intro hmem
      rw [formText_cons, List.mem_append, List.mem_cons] at hmem
      rcases hmem with hmem | hmem | hmem
      · exact hfield hmem
      · cases hmem
      · exact ih hplain.2 hmem

end FormText

/-! ### Texts written with `snprintf` -/

/-- A buffer of `size` bytes with a C string in it. -/
structure Printed (b : Buf) (size : ℕ) (text : List UInt8) : Prop where
  holds : b.Holds (text ++ [0])
  within : b.Within size
  fits : text.length < size

variable {b : Buf} {size : ℕ} {front text bytes : List UInt8}

lemma printed_snprintf (hin : b.Within size) (hfits : text.length < size) : Printed (snprintf b 0 size text) size text where
  holds := by
    rw [snprintf_eq_put hfits]
    exact b.holds_nil.put (text ++ [0])
  within := within_snprintf hin hfits (by omega)
  fits := hfits

/-- Behind what is there already. -/
lemma Printed.snprintf (h : Printed b size front) (hsize : size < 2 ^ 64) (hfits : (front ++ bytes).length < size) :
    Printed (snprintf b front.length (sizeSub size front.length) bytes) size (front ++ bytes) := by
  have hlen : (front ++ bytes).length = front.length + bytes.length := List.length_append
  have hrest : bytes.length < sizeSub size front.length := by
    rw [sizeSub_of_le (by omega) hsize]
    omega
  refine ⟨?_, within_snprintf h.within hrest (by omega), hfits⟩
  rw [snprintf_eq_put hrest, List.append_assoc]
  exact h.holds.of_append.put _

lemma Printed.put (h : Printed b size front) (hfits : (front ++ bytes).length < size) :
    Printed (b.put front.length (bytes ++ [0])) size (front ++ bytes) := by
  refine ⟨?_, ?_, hfits⟩
  · rw [List.append_assoc]
    exact h.holds.of_append.put _
  · rw [List.length_append] at hfits
    rw [Buf.within_put, List.length_append, List.length_singleton]
    exact ⟨by omega, h.within⟩

lemma Printed.cstr (h : Printed b size text) (hzero : 0 ∉ text) : b.cstr 0 size = text :=
  h.holds.cstr_zero hzero h.fits

/-! ### The bodies that are forms -/

def chatField (chatId : Int64) : List UInt8 × List UInt8 := (ascii "chat_id", ascii (toString chatId.toInt))

def messageField (messageId : UInt64) : List UInt8 × List UInt8 := (ascii "message_id", decimalU64 messageId)

def userField (userId : UInt64) : List UInt8 × List UInt8 := (ascii "user_id", decimalU64 userId)

/-- The fields that a server is to see. -/
def callFields : FormCall → List (List UInt8 × List UInt8)
  | .getChatAdmins chatId => [chatField chatId]
  | .deleteMsg ctx => [chatField ctx.chatId, messageField ctx.messageId]
  | .kickChatMember ctx =>
    chatField ctx.chatId :: userField ctx.userId ::
      ((if ctx.untilDate ≠ 0 then [(ascii "until_date", decimalU64 ctx.untilDate.toUInt64)] else []) ++
        (if !ctx.revokeMsg then [(ascii "revoke_messages", ascii "0")] else []))
  | .unbanChatMember ctx =>
    [chatField ctx.chatId, userField ctx.userId, (ascii "only_if_banned", decimalBool ctx.onlyIfBanned)]
  | .pinChatMsg ctx =>
    [chatField ctx.chatId, messageField ctx.messageId, (ascii "disable_notification", decimalBool ctx.disableNotification)]
  | .unpinChatMsg ctx => [chatField ctx.chatId, messageField ctx.messageId]

lemma isPlain_chatField (chatId : Int64) : IsPlain (chatField chatId).1 ∧ IsPlain (chatField chatId).2 :=
  ⟨show IsPlain (ascii "chat_id") by decide, isPlain_chatId chatId⟩

lemma isPlain_messageField (messageId : UInt64) : IsPlain (messageField messageId).1 ∧ IsPlain (messageField messageId).2 :=
  ⟨show IsPlain (ascii "message_id") by decide, isPlain_decimalU64 messageId⟩

lemma isPlain_userField (userId : UInt64) : IsPlain (userField userId).1 ∧ IsPlain (userField userId).2 :=
  ⟨show IsPlain (ascii "user_id") by decide, isPlain_decimalU64 userId⟩

lemma isPlain_callFields (call : FormCall) : ∀ f ∈ callFields call, IsPlain f.1 ∧ IsPlain f.2 := by
  cases call with
  | getChatAdmins chatId => exact List.forall_mem_singleton.mpr (isPlain_chatField chatId)
  | deleteMsg ctx =>
    rw [callFields, List.forall_mem_cons, List.forall_mem_singleton]
    exact ⟨isPlain_chatField _, isPlain_messageField _⟩
  | kickChatMember ctx =>
    have huntil : IsPlain (ascii "until_date") := by decide
    have hrevoke : IsPlain (ascii "revoke_messages") ∧ IsPlain (ascii "0") := by decide
    rw [callFields, List.forall_mem_cons, List.forall_mem_cons]
    refine ⟨isPlain_chatField _, isPlain_userField _, ?_⟩
    intro f hf
    rw [List.mem_append] at hf
    rcases hf with hf | hf
    · split at hf
      · rw [List.mem_singleton.mp hf]
        exact ⟨huntil, isPlain_decimalU64 _⟩
      · cases hf
    · split at hf
      · rw [List.mem_singleton.mp hf]
        exact hrevoke
      · cases hf
  | unbanChatMember ctx =>
    rw [callFields, List.forall_mem_cons, List.forall_mem_cons, List.forall_mem_singleton]
    exact ⟨isPlain_chatField _, isPlain_userField _, show IsPlain (ascii "only_if_banned") by decide, isPlain_decimalBool _⟩
  | pinChatMsg ctx =>
    rw [callFields, List.forall_mem_cons, List.forall_mem_cons, List.forall_mem_singleton]
    exact ⟨isPlain_chatField _, isPlain_messageField _, show IsPlain (ascii "disable_notification") by decide, isPlain_decimalBool _⟩
  | unpinChatMsg ctx =>
    rw [callFields, List.forall_mem_cons, List.forall_mem_singleton]
    exact ⟨isPlain_chatField _, isPlain_messageField _⟩

lemma chatIdText_length (chatId : Int64) : (chatIdText chatId).length ≤ 28 := by
  have hchat : (ascii (toString chatId.toInt)).length ≤ 19 + 1 := by
    apply ascii_int_length (by decide)
    have hlow := chatId.le_toInt
    have hhigh := chatId.toInt_lt
    omega
  have hname : (ascii "chat_id=").length = 8 := rfl
  rw [chatIdText, List.length_append]
  omega

lemma decimalU64_length (n : UInt64) : (decimalU64 n).length ≤ 20 := by
  apply ascii_nat_length (by decide)
  have hlt := n.toNat_lt
  omega

lemma decimalBool_length (b : Bool) : (decimalBool b).length = 1 := by
  cases b <;> rfl

lemma messageIdText_length (messageId : UInt64) : (messageIdText messageId).length ≤ 32 := by
  have hid := decimalU64_length messageId
  have hname : (ascii "&message_id=").length = 12 := rfl
  rw [messageIdText, List.length_append]
  omega

lemma userIdText_length (userId : UInt64) : (userIdText userId).length ≤ 29 := by
  have hid := decimalU64_length userId
  have hname : (ascii "&user_id=").length = 9 := rfl
  rw [userIdText, List.length_append]
  omega

lemma untilDateText_length (untilDate : Int64) : (untilDateText untilDate).length ≤ 32 := by
  have hdate := decimalU64_length untilDate.toUInt64
  have hname : (ascii "&until_date=").length = 12 := rfl
  rw [untilDateText, List.length_append]
  omega

/-! What is printed is the joined fields. -/

lemma chatIdText_eq (chatId : Int64) : chatIdText chatId = joinField (chatField chatId) := by
  rw [chatIdText, show ascii "chat_id=" = ascii "chat_id" ++ [61] from rfl, List.append_assoc]
  rfl

lemma messageIdText_eq (messageId : UInt64) : messageIdText messageId = 38 :: joinField (messageField messageId) := by
  rw [messageIdText, show ascii "&message_id=" = 38 :: (ascii "message_id" ++ [61]) from rfl, List.cons_append, List.append_assoc]
  rfl

lemma userIdText_eq (userId : UInt64) : userIdText userId = 38 :: joinField (userField userId) := by
  rw [userIdText, show ascii "&user_id=" = 38 :: (ascii "user_id" ++ [61]) from rfl, List.cons_append, List.append_assoc]
  rfl

lemma untilDateText_eq (untilDate : Int64) :
    untilDateText untilDate = 38 :: joinField (ascii "until_date", decimalU64 untilDate.toUInt64) := by
  rw [untilDateText, show ascii "&until_date=" = 38 :: (ascii "until_date" ++ [61]) from rfl, List.cons_append, List.append_assoc]
  rfl

lemma messageBody_eq (chatId : Int64) (messageId : UInt64) :
    chatIdText chatId ++ messageIdText messageId = formText [chatField chatId, messageField messageId] := by
  rw [formText_cons, formText_singleton, chatIdText_eq, messageIdText_eq]

lemma memberBody_eq (chatId : Int64) (userId : UInt64) :
    chatIdText chatId ++ userIdText userId = formText [chatField chatId, userField userId] := by
  rw [formText_cons, formText_singleton, chatIdText_eq, userIdText_eq]

lemma formText_concat {fields : List (List UInt8 × List UInt8)} (hne : fields ≠ []) (g : List UInt8 × List UInt8) :
    formText (fields ++ [g]) = formText fields ++ 38 :: joinField g := by
  induction fields with
  | nil => exact absurd rfl hne
  | cons f fields ih =>
    cases fields with
    | nil => rw [List.singleton_append, formText_cons, formText_singleton, formText_singleton]
    | cons h fields =>
      have htail := ih (List.cons_ne_nil h fields)
      rw [List.cons_append] at htail
      rw [List.cons_append, List.cons_append, formText_cons, formText_cons, htail, List.append_assoc, List.cons_append]

/-! ### Each call -/

section Calls

variable {b : Buf}

lemma putKicked_spec (ctx : TgaKickCm) (hin : b.Within 512) :
    let fields := chatField ctx.chatId :: userField ctx.userId ::
      (if ctx.untilDate ≠ 0 then [(ascii "until_date", decimalU64 ctx.untilDate.toUInt64)] else [])
    Printed (putKicked b ctx).1 512 (formText fields) ∧ (putKicked b ctx).2 = (formText fields).length ∧
      (formText fields).length ≤ 89 := by
  have hchat := chatIdText_length ctx.chatId
  have huser := userIdText_length ctx.userId
  have huntil := untilDateText_length ctx.untilDate
  have hlen : (chatIdText ctx.chatId ++ userIdText ctx.userId).length ≤ 57 := by
    rw [List.length_append]
    omega
  have hmember := printed_snprintf hin (show (chatIdText ctx.chatId ++ userIdText ctx.userId).length < 512 by omega)
  intro fields
  unfold putKicked
  by_cases hdate : ctx.untilDate ≠ 0
  · have hfields : formText fields = chatIdText ctx.chatId ++ userIdText ctx.userId ++ untilDateText ctx.untilDate := by
      rw [memberBody_eq, untilDateText_eq, ← formText_concat (List.cons_ne_nil _ _)]
      simp only [fields, if_pos hdate]
      rfl
    have htotal : (formText fields).length ≤ 89 := by
      rw [hfields, List.length_append]
      omega
    simp only [if_pos hdate]
    refine ⟨?_, ?_, htotal⟩
    · rw [hfields]
      exact hmember.snprintf (by decide) (by rw [← hfields]; omega)
    · rw [hfields]
      exact List.length_append.symm
  · have hfields : formText fields = chatIdText ctx.chatId ++ userIdText ctx.userId := by
      rw [memberBody_eq]
      simp only [fields, if_neg hdate]
    simp only [if_neg hdate]
    rw [hfields]
    exact ⟨hmember, rfl, by omega⟩

lemma printed_putBody (call : FormCall) (hin : b.Within call.size) :
    Printed (call.putBody b) call.size (formText (callFields call)) := by
  cases call with
  | getChatAdmins chatId =>
    have hchat := chatIdText_length chatId
    rw [callFields, formText_singleton, ← chatIdText_eq]
    exact printed_snprintf hin (show _ < 64 by omega)
  | deleteMsg ctx | unpinChatMsg ctx =>
    have hchat := chatIdText_length ctx.chatId
    have hmessage := messageIdText_length ctx.messageId
    rw [callFields, ← messageBody_eq]
    exact printed_snprintf hin (show _ < 128 by rw [List.length_append]; omega)
  | kickChatMember ctx =>
    obtain ⟨hkicked, hpos, hlen⟩ := putKicked_spec ctx hin
    change Printed (tgaKickChatMember b ctx) 512 _
    unfold tgaKickChatMember
    dsimp only
    rw [hpos, callFields]
    by_cases hrevoke : (!ctx.revokeMsg) = true
    · have hname : ascii "&revoke_messages=0" = 38 :: joinField (ascii "revoke_messages", ascii "0") := rfl
      have hname' : (ascii "&revoke_messages=0").length = 18 := rfl
      rw [if_pos hrevoke, if_pos hrevoke, ← List.cons_append, ← List.cons_append, formText_concat (List.cons_ne_nil _ _), ← hname]
      exact hkicked.put (by rw [List.length_append]; omega)
    · rw [if_neg hrevoke, if_neg hrevoke, List.append_nil]
      exact hkicked
  | unbanChatMember ctx =>
    have hchat := chatIdText_length ctx.chatId
    have huser := userIdText_length ctx.userId
    have hflag := decimalBool_length ctx.onlyIfBanned
    have hname : ascii "&only_if_banned=" = 38 :: (ascii "only_if_banned" ++ [61]) := rfl
    have hname' : (ascii "&only_if_banned=").length = 16 := rfl
    have hfields : formText (callFields (.unbanChatMember ctx)) =
        chatIdText ctx.chatId ++ userIdText ctx.userId ++ ascii "&only_if_banned=" ++ decimalBool ctx.onlyIfBanned := by
      rw [memberBody_eq, hname, List.append_assoc, List.cons_append, List.append_assoc]
      exact formText_concat (List.cons_ne_nil _ [_]) (ascii "only_if_banned", decimalBool ctx.onlyIfBanned)
    rw [hfields]
    exact printed_snprintf hin (show _ < 256 by simp only [List.length_append]; omega)
  | pinChatMsg ctx =>
    have hchat := chatIdText_length ctx.chatId
    have hmessage := messageIdText_length ctx.messageId
    have hflag := decimalBool_length ctx.disableNotification
    have hname : ascii "&disable_notification=" = 38 :: (ascii "disable_notification" ++ [61]) := rfl
    have hname' : (ascii "&disable_notification=").length = 22 := rfl
    have hfields : formText (callFields (.pinChatMsg ctx)) =
        chatIdText ctx.chatId ++ messageIdText ctx.messageId ++ ascii "&disable_notification=" ++
          decimalBool ctx.disableNotification := by
      rw [messageBody_eq, hname, List.append_assoc, List.cons_append, List.append_assoc]
      exact formText_concat (List.cons_ne_nil _ [_]) (ascii "disable_notification", decimalBool ctx.disableNotification)
    rw [hfields]
    exact printed_snprintf hin (show _ < 256 by simp only [List.length_append]; omega)

end Calls

/-! ### A number is read as what was printed -/

lemma decimal_ascii_nat (n : ℕ) : decimal (ascii (toString n)) = n := by
  have hdigits : ∀ (digits : List Char) (acc : ℕ), (∀ d ∈ digits, d.isDigit = true) →
      (digits.map (fun d => UInt8.ofNat d.toNat)).foldl (fun n c => 10 * n + (c.toNat - 48)) acc =
        Nat.ofDigitChars 10 digits acc := by
    intro digits
    induction digits with
    | nil => exact fun acc _ => rfl
    | cons d digits ih =>
      intro acc hall
      rw [List.forall_mem_cons] at hall
      have hdigit := hall.1
      simp only [Char.isDigit, Bool.and_eq_true, decide_eq_true_eq, ge_iff_le, UInt32.le_iff_toNat_le] at hdigit
      have hhigh : d.toNat ≤ 57 := hdigit.2
      have hbyte : (UInt8.ofNat d.toNat).toNat = d.toNat := by
        rw [UInt8.toNat_ofNat']
        exact Nat.mod_eq_of_lt (by omega)
      rw [List.map_cons, List.foldl_cons, ih _ hall.2, hbyte, Nat.ofDigitChars_cons]
      rfl
  rw [decimal, ascii, Nat.toString_eq_repr, Nat.toList_repr,
    hdigits _ 0 (fun d hd => Nat.isDigit_of_mem_toDigits (by decide) (by decide) hd), Nat.ofDigitChars_ten_toDigits]

lemma ascii_nat_inj {m n : ℕ} (h : ascii (toString m) = ascii (toString n)) : m = n := by
  rw [← decimal_ascii_nat m, h, decimal_ascii_nat]

lemma ascii_nat_ne_neg (n : ℕ) (rest : List UInt8) : ascii (toString n) ≠ 45 :: rest := by
  intro h
  have hunsigned := isUnsigned_nat n
  rw [h] at hunsigned
  cases hunsigned

lemma ascii_int_inj {i j : ℤ} (h : ascii (toString i) = ascii (toString j)) : i = j := by
  rw [ascii_int i, ascii_int j] at h
  by_cases hi : 0 ≤ i <;> by_cases hj : 0 ≤ j
  · rw [if_pos hi, if_pos hj] at h
    have hnat := ascii_nat_inj h
    omega
  · rw [if_pos hi, if_neg hj] at h
    exact absurd h (ascii_nat_ne_neg _ _)
  · rw [if_neg hi, if_pos hj] at h
    exact absurd h.symm (ascii_nat_ne_neg _ _)
  · rw [if_neg hi, if_neg hj] at h
    have hnat := ascii_nat_inj (List.cons.inj h).2
    omega

lemma chatField_inj {m n : Int64} (h : chatField m = chatField n) : m = n :=
  Int64.toInt_inj.mp (ascii_int_inj (Prod.mk.inj h).2)

lemma decimalU64_inj {m n : UInt64} (h : decimalU64 m = decimalU64 n) : m = n := UInt64.toNat_inj.mp (ascii_nat_inj h)

lemma messageField_inj {m n : UInt64} (h : messageField m = messageField n) : m = n := decimalU64_inj (Prod.mk.inj h).2

lemma userField_inj {m n : UInt64} (h : userField m = userField n) : m = n := decimalU64_inj (Prod.mk.inj h).2

lemma decimalBool_inj {a b : Bool} (h : decimalBool a = decimalBool b) : a = b := by
  revert h
  cases a <;> cases b <;> decide

lemma toUInt64_inj {m n : Int64} (h : m.toUInt64 = n.toUInt64) : m = n := by
  cases m
  cases n
  rw [Int64.ofUInt64.injEq]
  exact h

/-- The fields after the chat and the user: a missing date is zero, and a missing flag is set. -/
lemma kickFields_inj {date date' : Int64} {revoke revoke' : Bool}
    (h : (if date ≠ 0 then [(ascii "until_date", decimalU64 date.toUInt64)] else []) ++
        (if !revoke then [(ascii "revoke_messages", ascii "0")] else []) =
      (if date' ≠ 0 then [(ascii "until_date", decimalU64 date'.toUInt64)] else []) ++
        (if !revoke' then [(ascii "revoke_messages", ascii "0")] else [])) : date = date' ∧ revoke = revoke' := by
  have hname : ascii "revoke_messages" ≠ ascii "until_date" := by decide
  have hmem : ∀ (date : Int64) (revoke : Bool), (ascii "revoke_messages", ascii "0") ∈
      (if date ≠ 0 then [(ascii "until_date", decimalU64 date.toUInt64)] else []) ++
        (if !revoke then [(ascii "revoke_messages", ascii "0")] else []) ↔ revoke = false := by
    intro date revoke
    split <;> cases revoke <;> simp [hname]
  have hflag : revoke = revoke' := by
    have hiff := hmem date revoke
    rw [h, hmem date' revoke'] at hiff
    cases revoke <;> cases revoke' <;> simp at hiff ⊢
  subst hflag
  rw [List.append_left_inj] at h
  refine ⟨?_, rfl⟩
  by_cases hdate : date = 0 <;> by_cases hdate' : date' = 0
  · rw [hdate, hdate']
  · rw [if_neg (not_not_intro hdate), if_pos hdate'] at h
    cases h
  · rw [if_pos hdate, if_neg (not_not_intro hdate')] at h
    cases h
  · rw [if_pos hdate, if_pos hdate', List.singleton_inj, Prod.mk.injEq] at h
    exact toUInt64_inj (decimalU64_inj h.2)

lemma callFields_inj {call call' : FormCall} (hmethod : call.method = call'.method) (h : callFields call = callFields call') :
    call = call' := by
  cases call with
  | getChatAdmins chatId =>
    cases call' with
    | getChatAdmins chatId' => rw [chatField_inj (List.singleton_inj.mp h)]
    | _ => exact absurd hmethod (by dsimp only [FormCall.method]; decide)
  | deleteMsg ctx =>
    cases call' with
    | deleteMsg ctx' =>
      obtain ⟨hchat, hrest⟩ := List.cons.inj h
      cases ctx
      cases ctx'
      cases chatField_inj hchat
      cases messageField_inj (List.singleton_inj.mp hrest)
      rfl
    | _ => exact absurd hmethod (by dsimp only [FormCall.method]; decide)
  | kickChatMember ctx =>
    cases call' with
    | kickChatMember ctx' =>
      obtain ⟨hchat, hrest⟩ := List.cons.inj h
      obtain ⟨huser, hrest⟩ := List.cons.inj hrest
      obtain ⟨hdate, hrevoke⟩ := kickFields_inj hrest
      cases ctx
      cases ctx'
      cases chatField_inj hchat
      cases userField_inj huser
      cases hdate
      cases hrevoke
      rfl
    | _ => exact absurd hmethod (by dsimp only [FormCall.method]; decide)
  | unbanChatMember ctx =>
    cases call' with
    | unbanChatMember ctx' =>
      obtain ⟨hchat, hrest⟩ := List.cons.inj h
      obtain ⟨huser, hrest⟩ := List.cons.inj hrest
      cases ctx
      cases ctx'
      cases chatField_inj hchat
      cases userField_inj huser
      cases decimalBool_inj (Prod.mk.inj (List.singleton_inj.mp hrest)).2
      rfl
    | _ => exact absurd hmethod (by dsimp only [FormCall.method]; decide)
  | pinChatMsg ctx =>
    cases call' with
    | pinChatMsg ctx' =>
      obtain ⟨hchat, hrest⟩ := List.cons.inj h
      obtain ⟨hmessage, hrest⟩ := List.cons.inj hrest
      cases ctx
      cases ctx'
      cases chatField_inj hchat
      cases messageField_inj hmessage
      cases decimalBool_inj (Prod.mk.inj (List.singleton_inj.mp hrest)).2
      rfl
    | _ => exact absurd hmethod (by dsimp only [FormCall.method]; decide)
  | unpinChatMsg ctx =>
    cases call' with
    | unpinChatMsg ctx' =>
      obtain ⟨hchat, hrest⟩ := List.cons.inj h
      cases ctx
      cases ctx'
      cases chatField_inj hchat
      cases messageField_inj (List.singleton_inj.mp hrest)
      rfl
    | _ => exact absurd hmethod (by dsimp only [FormCall.method]; decide)

lemma callFields_ne_nil (call : FormCall) : callFields call ≠ [] := by
  cases call <;> exact List.cons_ne_nil _ _

lemma formDecode_putBody (call : FormCall) (junk : ℕ → UInt8) :
    formDecode ((call.putBody (Buf.fresh junk)).cstr 0 call.size) = callFields call := by
  have hprinted := printed_putBody call (Buf.within_fresh junk call.size)
  have hplain := isPlain_callFields call
  rw [hprinted.cstr (zero_not_mem_formText hplain), formDecode_formText (callFields_ne_nil call) hplain]

/-- Every form stays in its buffer, a server reads exactly the arguments of the call out of it, and two calls of
one method never send the same bytes for different arguments. -/
theorem form_calls_send_their_arguments (call : FormCall) (junk : ℕ → UInt8) :
    let buf := call.putBody (Buf.fresh junk)
    buf.Within call.size ∧ formDecode (buf.cstr 0 call.size) = callFields call ∧
      ∀ call' junk', call'.method = call.method →
        (call'.putBody (Buf.fresh junk')).cstr 0 call'.size = buf.cstr 0 call.size → call' = call := by
  intro buf
  refine ⟨(printed_putBody call (Buf.within_fresh junk call.size)).within, formDecode_putBody call junk, ?_⟩
  intro call' junk' hmethod hsame
  apply callFields_inj hmethod
  calc callFields call'
    _ = formDecode ((call'.putBody (Buf.fresh junk')).cstr 0 call'.size) := (formDecode_putBody call' junk').symm
    _ = formDecode (buf.cstr 0 call.size) := by rw [hsame]
    _ = callFields call := formDecode_putBody call junk

/-! ### The body that is JSON -/

section Restrict

variable (ctx : TgaRestrictCm)

/-- The object that the template is the text of. -/
def restrictJson : Json :=
  let perm := ctx.permissions
  .object [(ascii "user_id", .int ctx.userId.toNat), (ascii "chat_id", .int ctx.chatId.toInt),
    (ascii "until_date", .int ctx.untilDate.toUInt64.toNat),
    (ascii "permissions", .object [(ascii "can_send_messages", .bool perm.canSendMessages),
      (ascii "can_send_media_messages", .bool perm.canSendMediaMessages), (ascii "can_send_polls", .bool perm.canSendPolls),
      (ascii "can_send_other_messages", .bool perm.canSendOtherMessages),
      (ascii "can_add_web_page_previews", .bool perm.canAddWebPagePreviews),
      (ascii "can_change_info", .bool perm.canChangeInfo), (ascii "can_invite_users", .bool perm.canInviteUsers),
      (ascii "can_pin_messages", .bool perm.canPinMessages)])]

/-- `JSON_C_TO_STRING_PLAIN`. -/
def plainFlags : ToStringFlags := ⟨false, false, false, false⟩

lemma escape_key {key : List UInt8} (h : ∀ c ∈ key, jsonEscapeChar c = [c]) :
    key.flatMap (jsonEscapeCharExt plainFlags) = key := by
  induction key with
  | nil => rfl
  | cons c key ih =>
    rw [List.forall_mem_cons] at h
    rw [List.flatMap_cons, ih h.2, jsonEscapeCharExt, if_neg (fun hflag => absurd hflag.1 (by decide)), h.1]
    rfl

/-- One field of an object in the plain format. -/
lemma plain_field {key : String} (hkey : ∀ c ∈ ascii key, jsonEscapeChar c = [c]) (hadChildren : Bool) (level : ℕ) (j : Json)
    (rest : List (List UInt8 × Json)) :
    fieldsToJsonStringExt plainFlags level hadChildren ((ascii key, j) :: rest) =
      (if hadChildren then ascii "," else []) ++ (ascii ("\"" ++ key ++ "\":") ++ (j.toJsonStringExt plainFlags (level + 1) ++
        fieldsToJsonStringExt plainFlags level true rest)) := by
  rw [fieldsToJsonStringExt, escape_key hkey, ascii_append, ascii_append]
  simp only [List.append_assoc]
  cases hadChildren <;> rfl

lemma plain_object (level : ℕ) (fields : List (List UInt8 × Json)) :
    (Json.object fields).toJsonStringExt plainFlags level =
      ascii "\x7b" ++ fieldsToJsonStringExt plainFlags level false fields ++ ascii "\x7d" := by
  rw [Json.toJsonStringExt, show newLine plainFlags = [] from rfl, List.append_nil,
    show closingSpace plainFlags level (!fields.isEmpty) = [] from by cases fields <;> rfl, List.append_nil]

lemma plain_bool (level : ℕ) (b : Bool) : (Json.bool b).toJsonStringExt plainFlags level = jsonBool b := by
  rw [Json.toJsonStringExt]
  rfl

lemma plain_int (level : ℕ) (i : ℤ) : (Json.int i).toJsonStringExt plainFlags level = ascii (toString i) := by
  rw [Json.toJsonStringExt]

lemma decimalU64_eq (n : UInt64) : ascii (toString (n.toNat : ℤ)) = decimalU64 n := by
  rw [decimalU64, ascii_int, if_pos (Int.natCast_nonneg _), Int.toNat_natCast]

lemma restrictText_eq : restrictText ctx = (restrictJson ctx).toJsonStringExt plainFlags 0 := by
  have hkeys : ∀ key ∈ ["user_id", "chat_id", "until_date", "permissions", "can_send_messages", "can_send_media_messages",
      "can_send_polls", "can_send_other_messages", "can_add_web_page_previews", "can_change_info", "can_invite_users",
      "can_pin_messages"], ∀ c ∈ ascii key, jsonEscapeChar c = [c] := by decide +kernel
  simp only [List.forall_mem_cons] at hkeys
  obtain ⟨huser, hchat, huntil, hpermissions, hmessages, hmedia, hpolls, hother, hpreviews, hinfo, hinvite, hpin, -⟩ := hkeys
  have hnested : ascii "\"permissions\":\x7b" = ascii "\"permissions\":" ++ ascii "\x7b" := rfl
  unfold restrictJson restrictText
  dsimp only
  rw [plain_object, plain_field huser, plain_field hchat, plain_field huntil, plain_field hpermissions, plain_object,
    plain_field hmessages, plain_field hmedia, plain_field hpolls, plain_field hother, plain_field hpreviews,
    plain_field hinfo, plain_field hinvite, plain_field hpin]
  simp only [hnested, plain_int, plain_bool, decimalU64_eq, fieldsToJsonStringExt, Bool.false_eq_true, if_false, if_true,
    String.reduceAppend, List.append_assoc, List.append_nil, List.nil_append]

/-- What a reader of JSON makes of the number. -/
def intValue (i : ℤ) : Value := .number ⟨ascii (toString i), isNumber_int i⟩

def restrictValue : Value :=
  let perm := ctx.permissions
  .object [(ascii "user_id", intValue ctx.userId.toNat), (ascii "chat_id", intValue ctx.chatId.toInt),
    (ascii "until_date", intValue ctx.untilDate.toUInt64.toNat),
    (ascii "permissions", .object [(ascii "can_send_messages", .bool perm.canSendMessages),
      (ascii "can_send_media_messages", .bool perm.canSendMediaMessages), (ascii "can_send_polls", .bool perm.canSendPolls),
      (ascii "can_send_other_messages", .bool perm.canSendOtherMessages),
      (ascii "can_add_web_page_previews", .bool perm.canAddWebPagePreviews),
      (ascii "can_change_info", .bool perm.canChangeInfo), (ascii "can_invite_users", .bool perm.canInviteUsers),
      (ascii "can_pin_messages", .bool perm.canPinMessages)])]

lemma value?_int (i : ℤ) : (Json.int i).value? = some (intValue i) := by
  rw [Json.value?, number?, dif_pos (isNumber_int i)]
  rfl

lemma restrictJson_value : (restrictJson ctx).value? = some (restrictValue ctx) := by
  unfold restrictJson
  simp only [Json.value?.eq_7, Json.value?.eq_2, fieldsValue?, value?_int, Option.bind_some, Option.map_some]
  rfl

lemma restrictText_length : (restrictText ctx).length < 512 := by
  have huser := decimalU64_length ctx.userId
  have huntil := decimalU64_length ctx.untilDate.toUInt64
  have hchat := chatIdText_length ctx.chatId
  have hname : (ascii "chat_id=").length = 8 := rfl
  rw [chatIdText, List.length_append, hname] at hchat
  have hbool : ∀ b, (jsonBool b).length ≤ 5 := by decide
  have hmessages := hbool ctx.permissions.canSendMessages
  have hmedia := hbool ctx.permissions.canSendMediaMessages
  have hpolls := hbool ctx.permissions.canSendPolls
  have hother := hbool ctx.permissions.canSendOtherMessages
  have hpreviews := hbool ctx.permissions.canAddWebPagePreviews
  have hinfo := hbool ctx.permissions.canChangeInfo
  have hinvite := hbool ctx.permissions.canInviteUsers
  have hpin := hbool ctx.permissions.canPinMessages
  unfold restrictText
  generalize ascii (toString ctx.chatId.toInt) = chat at hchat ⊢
  simp only [List.length_append, ascii, String.reduceToList, List.map_cons, List.map_nil, List.length_cons, List.length_nil]
  omega

lemma printed_restrict {b : Buf} (hin : b.Within 512) : Printed (tgaRestrictChatMember b ctx) 512 (restrictText ctx) :=
  printed_snprintf hin (restrictText_length ctx)

lemma restrict_body (junk : ℕ → UInt8) :
    (tgaRestrictChatMember (Buf.fresh junk) ctx).cstr 0 512 = (restrictJson ctx).toJsonStringExt plainFlags 0 := by
  rw [← restrictText_eq]
  apply (printed_restrict ctx (Buf.within_fresh junk 512)).cstr
  rw [restrictText_eq]
  exact zero_not_mem_toJsonStringExt plainFlags 0 (restrictJson_value ctx)

lemma parse_restrict (junk : ℕ → UInt8) :
    parse ((tgaRestrictChatMember (Buf.fresh junk) ctx).cstr 0 512) = some (restrictValue ctx) := by
  rw [restrict_body, toJsonStringExt_eq plainFlags 0 _ _ (restrictJson_value ctx)]
  exact parse_print (jsonStyle plainFlags) 0 (restrictValue ctx)

end Restrict

lemma intValue_inj {i j : ℤ} (h : intValue i = intValue j) : i = j := by
  rw [intValue, intValue, Value.number.injEq, Subtype.mk.injEq] at h
  exact ascii_int_inj h

lemma restrictValue_inj {ctx ctx' : TgaRestrictCm} (h : restrictValue ctx = restrictValue ctx') : ctx = ctx' := by
  obtain ⟨chatId, userId, untilDate, ⟨⟩⟩ := ctx
  obtain ⟨chatId', userId', untilDate', ⟨⟩⟩ := ctx'
  simp only [restrictValue, Value.object.injEq, List.cons.injEq, Prod.mk.injEq, Value.bool.injEq, true_and, and_true] at h
  obtain ⟨huser, hchat, huntil, hpermissions⟩ := h
  have huser := UInt64.toNat_inj.mp (Int.ofNat.inj (intValue_inj huser))
  have hchat := Int64.toInt_inj.mp (intValue_inj hchat)
  have huntil := toUInt64_inj (UInt64.toNat_inj.mp (Int.ofNat.inj (intValue_inj huntil)))
  rw [huser, hchat, huntil, hpermissions.1, hpermissions.2.1, hpermissions.2.2.1, hpermissions.2.2.2.1,
    hpermissions.2.2.2.2.1, hpermissions.2.2.2.2.2.1, hpermissions.2.2.2.2.2.2.1, hpermissions.2.2.2.2.2.2.2]

/-- The template of `tga_restrict_chat_member` is what json-c prints for an object with these arguments: it fits, a
reader of JSON gets exactly the arguments out of it, and other arguments are other bytes. -/
theorem restrict_template_is_json (ctx : TgaRestrictCm) (junk : ℕ → UInt8) :
    let buf := tgaRestrictChatMember (Buf.fresh junk) ctx
    buf.Within 512 ∧ buf.cstr 0 512 = (restrictJson ctx).toJsonStringExt plainFlags 0 ∧
      parse (buf.cstr 0 512) = some (restrictValue ctx) ∧
        ∀ ctx' junk', (tgaRestrictChatMember (Buf.fresh junk') ctx').cstr 0 512 = buf.cstr 0 512 → ctx' = ctx := by
  intro buf
  refine ⟨(printed_restrict ctx (Buf.within_fresh junk 512)).within, restrict_body ctx junk, parse_restrict ctx junk, ?_⟩
  intro ctx' junk' hsame
  have hvalue := parse_restrict ctx' junk'
  rw [hsame, parse_restrict ctx junk, Option.some_inj] at hvalue
  exact (restrictValue_inj hvalue).symm

end GNUWeebBot.Proofs
