import GNUWeebBot.Proofs.Announcement
import GNUWeebBot.Proofs.FormBody
import GNUWeebBot.Proofs.ReportReply

/-!
# The buffer of a moderation reply

`gen_name_link` adds the length of each name to the space instead of subtracting it, and a target
without a sender takes nothing from it. So the replies stay in their buffer only as long as the names
and the reason happen to be short enough.
-/

namespace GNUWeebBot.Proofs

open Fill

/-! ### The space counter -/

/-- The values of `sps` in `gen_name_link`, before they wrap. -/
def linkSps (b : Buf) (sps id : ℕ) (first : List UInt8) (last : CharPtr) : List ℤ :=
  let space := sizeSub sps 5
  let link := linkText id
  let room := sizeSub space link.length
  let name := htmlspecialchars (snprintf b 0 space link) link.length room (first.take 0xff)
  let more := sizeAdd room name.2
  [(sps : ℤ) - 5, (space : ℤ) - link.length, (room : ℤ) + sizeAdd 0 name.2] ++
    match last with
    | none => []
    | some last =>
      let ret := (link.length + (name.2 - 1)).toNat
      [(more : ℤ) + sizeAdd 0 (htmlspecialchars (name.1.put ret (ascii " ")) (ret + 1) more (last.take 0xff)).2]

/-- The values of `sps` before the reason, and the last of them as the code has it. -/
def targetSps (b : Buf) (fr : Option TgeviFrom) (otherSps : ℕ) : List ℤ × ℕ :=
  match fr with
  | none => ([(RTB_SIZE : ℤ) - otherSps], sizeSub RTB_SIZE otherSps)
  | some fr =>
    let sps := sizeSub RTB_SIZE 18
    let first := fr.firstName.getD []
    let link := genNameLink b sps fr.id first fr.lastName
    (((RTB_SIZE : ℤ) - 18) :: linkSps b sps fr.id first fr.lastName ++ [(sps : ℤ) - link.2], sizeSub sps link.2)

/-- The values of `sps` while a reply is composed. -/
def replySps (cmd : ModCmd) (fr : Option TgeviFrom) (reason : CharPtr) (b : Buf) : List ℤ :=
  let target := targetSps b fr (if cmd = .ban then 15 else 0)
  target.1 ++ if reason.isSome then [(target.2 : ℤ) - 18] else []

/-- The commands whose reply names the target. -/
def naming : List ModCmd := [.ban, .unban, .kick, .mute, .unmute]

/-- The reply is composed in `reply_text`, with a NUL in it, and `sps` does not wrap. -/
structure ComposedSafe (cmd : ModCmd) (replyTo : Tgev) (reason : CharPtr) (junk : ℕ → UInt8) (w : World) : Prop where
  composed : ∃ b, doneReply cmd replyTo reason (Buf.fresh junk) w = .next b w ∧ b.Within RTB_SIZE ∧
    ∃ n < RTB_SIZE, b.mem n = 0
  counter : ∀ sps ∈ replySps cmd replyTo.sender? reason (Buf.fresh junk), 0 ≤ sps ∧ sps < 2 ^ 64

/-! ### The link -/

/-- How much of the escaped name is kept. -/
def keptLength (room : ℕ) (name : List UInt8) : ℕ := (escapedEnd room (name.take 0xff)).toNat

/-- The length of the link to a target. -/
def nameLinkLength (id : ℕ) (first : List UInt8) (last : CharPtr) : ℕ :=
  let room := 1001 - (linkText id).length
  let kept := keptLength room first
  match last with
  | none => (linkText id).length + kept + 4
  | some last => (linkText id).length + kept + 1 + keptLength (room + kept + 1) last + 4

lemma escapedEnd_kept {room : ℕ} (hroom : 6 ≤ room) (name : List UInt8) :
    escapedEnd room (name.take 0xff) = keptLength room name :=
  (Int.toNat_of_nonneg (escapedEnd_nonneg hroom _)).symm

lemma keptLength_lt {room : ℕ} (hroom : 6 ≤ room) (name : List UInt8) : keptLength room name < room := by
  have hkept := escapedEnd_kept hroom name
  have hlt := escapedEnd_lt (show 0 < room by omega) (name.take 0xff)
  omega

lemma linkText_length_le {id : ℕ} (hid : id < 2 ^ 64) : (linkText id).length ≤ 44 := by
  have hopen : (ascii "<a href=\"tg://user?id=").length = 22 := rfl
  have hclose : (ascii "\">").length = 2 := rfl
  have hnum := ascii_nat_length (show 0 < 20 by decide) (show id < 10 ^ 20 by omega)
  simp only [linkText, List.length_append]
  omega

section Link

variable (b : Buf) {id : ℕ} (hid : id < 2 ^ 64) (first last : List UInt8)

/-- The buffer with the link and the first name. -/
def putFirst (b : Buf) (id : ℕ) (first : List UInt8) : Buf :=
  (htmlspecialchars (snprintf b 0 1001 (linkText id)) (linkText id).length (1001 - (linkText id).length)
    (first.take 0xff)).1

include hid

lemma firstSpace :
    sizeSub 1001 (linkText id).length = 1001 - (linkText id).length ∧
      (htmlspecialchars (snprintf b 0 1001 (linkText id)) (linkText id).length (1001 - (linkText id).length)
        (first.take 0xff)).2 = (keptLength (1001 - (linkText id).length) first : ℤ) + 1 ∧
      sizeAdd (1001 - (linkText id).length) ((keptLength (1001 - (linkText id).length) first : ℤ) + 1) =
        1001 - (linkText id).length + keptLength (1001 - (linkText id).length) first + 1 := by
  have hlink := linkText_length_le hid
  have hlt := keptLength_lt (show 6 ≤ 1001 - (linkText id).length by omega) first
  refine ⟨sizeSub_of_le (by omega) (by omega), ?_, ?_⟩
  · rw [htmlspecialchars_ret_pos _ _ (by omega), escapedEnd_kept (by omega)]
  · unfold sizeAdd
    omega

lemma genNameLink_none :
    genNameLink b 1006 id first none =
      ((putFirst b id first).put ((linkText id).length + keptLength (1001 - (linkText id).length) first)
        (ascii "</a>" ++ [0]), nameLinkLength id first none) := by
  obtain ⟨hroom, hret, -⟩ := firstSpace b hid first
  have hspace : sizeSub 1006 5 = 1001 := rfl
  unfold genNameLink nameLinkLength
  rw [if_neg (by decide)]
  dsimp only
  rw [hspace, hroom, hret, Int.add_sub_cancel, ← Nat.cast_add, Int.toNat_natCast]
  rfl

lemma genNameLink_some :
    genNameLink b 1006 id first (some last) =
      (((htmlspecialchars ((putFirst b id first).put
          ((linkText id).length + keptLength (1001 - (linkText id).length) first) (ascii " "))
        ((linkText id).length + keptLength (1001 - (linkText id).length) first + 1)
        (1001 - (linkText id).length + keptLength (1001 - (linkText id).length) first + 1) (last.take 0xff)).1).put
          (nameLinkLength id first (some last) - 4) (ascii "</a>" ++ [0]), nameLinkLength id first (some last)) := by
  obtain ⟨hroom, hret, hmore⟩ := firstSpace b hid first
  have hspace : sizeSub 1006 5 = 1001 := rfl
  have hlink := linkText_length_le hid
  unfold genNameLink nameLinkLength
  rw [if_neg (by decide)]
  dsimp only
  rw [hspace, hroom, hret, hmore, Int.add_sub_cancel, ← Nat.cast_add, Int.toNat_natCast,
    htmlspecialchars_ret_pos _ _ (by omega), escapedEnd_kept (by omega), Int.add_sub_cancel, ← Nat.cast_add,
    Int.toNat_natCast, Nat.add_sub_cancel]
  rfl

lemma genNameLink_length (last : CharPtr) : (genNameLink b 1006 id first last).2 = nameLinkLength id first last := by
  cases last with
  | none => rw [genNameLink_none b hid]
  | some last => rw [genNameLink_some b hid]

lemma within_putFirst (hin : b.Within RTB_SIZE) : (putFirst b id first).Within RTB_SIZE := by
  have hlink := linkText_length_le hid
  have hsize : RTB_SIZE = 1024 := rfl
  apply within_htmlspecialchars
  · exact within_snprintf hin (by omega) (by omega)
  · omega

/-- The link stays in the buffer where its length leaves 18 bytes. -/
lemma within_genNameLink (hin : b.Within RTB_SIZE) (last : CharPtr) (hlen : nameLinkLength id first last ≤ 1006) :
    (genNameLink b 1006 id first last).1.Within RTB_SIZE := by
  have hlink := linkText_length_le hid
  have hsize : RTB_SIZE = 1024 := rfl
  have hend : (ascii "</a>" ++ [0]).length = 5 := rfl
  have hfirst := within_putFirst b hid first hin
  have hlt := keptLength_lt (show 6 ≤ 1001 - (linkText id).length by omega) first
  cases last with
  | none =>
    rw [genNameLink_none b hid first, Buf.within_put, hend]
    exact ⟨by omega, hfirst⟩
  | some last =>
    have hlast := escapedEnd_kept
      (show 6 ≤ 1001 - (linkText id).length + keptLength (1001 - (linkText id).length) first + 1 by omega) last
    have htotal : nameLinkLength id first (some last) =
      (linkText id).length + keptLength (1001 - (linkText id).length) first + 1 +
        keptLength (1001 - (linkText id).length + keptLength (1001 - (linkText id).length) first + 1) last + 4 := rfl
    rw [genNameLink_some b hid first last, Buf.within_put, hend]
    refine ⟨by omega, within_htmlspecialchars_end ?_ _ hlast (by omega)⟩
    rw [Buf.within_put]
    exact ⟨by change _ + 1 ≤ _; omega, hfirst⟩

lemma linkSps_bounds (last : CharPtr) : ∀ sps ∈ linkSps b 1006 id first last, 0 ≤ sps ∧ sps < 2 ^ 64 := by
  obtain ⟨hroom, hret, hmore⟩ := firstSpace b hid first
  have hspace : sizeSub 1006 5 = 1001 := rfl
  have hlink := linkText_length_le hid
  have hlt := keptLength_lt (show 6 ≤ 1001 - (linkText id).length by omega) first
  unfold linkSps
  dsimp only
  rw [hspace, hroom, hret, hmore, List.forall_mem_append]
  constructor
  · simp only [List.forall_mem_cons, List.not_mem_nil, false_implies, implies_true, and_true]
    unfold sizeAdd
    omega
  · cases last with
    | none => simp
    | some last =>
      have hlt' := keptLength_lt
        (show 6 ≤ 1001 - (linkText id).length + keptLength (1001 - (linkText id).length) first + 1 by omega) last
      dsimp only
      rw [htmlspecialchars_ret_pos _ _ (by omega), escapedEnd_kept (by omega)]
      simp only [List.forall_mem_cons, List.not_mem_nil, false_implies, implies_true, and_true]
      unfold sizeAdd
      omega

end Link

/-! ### The reason -/

section Reason

variable (b : Buf) (pos room : ℕ) (r : List UInt8)

lemma putReason_some (hroom : 0 < room) (hmax : room + 18 < 2 ^ 64) :
    putReason b pos (room + 18) (some r) =
      (htmlspecialchars (b.put pos (ascii "\n<b>Message:</b> " ++ [0])) (pos + 17) room (r.take room)).1.put
        (pos + 17 + escapedEnd room (r.take room)).toNat [0] := by
  have hsub : sizeSub (room + 18) 18 = room := by
    rw [sizeSub_of_le (by omega) hmax, Nat.add_sub_cancel]
  unfold putReason
  dsimp only
  rw [hsub, htmlspecialchars_ret_pos _ _ hroom, ← Int.add_assoc, Int.add_sub_cancel, Nat.cast_add]
  rfl

lemma putReason_no_space (reason : List UInt8) :
    putReason b pos 18 (some reason) = (b.put pos (ascii "\n<b>Message:</b> " ++ [0])).put (pos + 16) [0] := by
  have hsub : sizeSub 18 18 = 0 := rfl
  unfold putReason
  dsimp only
  rw [hsub, htmlspecialchars_zero]
  dsimp only
  congr 1
  omega

variable {b pos room} in
/-- The writes of a reason, the terminators one byte behind its text. -/
lemma within_putReason_iff (hroom : 0 < room) (hmax : room + 18 < 2 ^ 64) {size : ℕ} :
    (putReason b pos (room + 18) (some r)).Within size ↔
      b.Within size ∧ pos + 18 ≤ size ∧ pos + 17 + (escaped room (r.take room)).length ≤ size ∧
        pos + 19 + escapedEnd room (r.take room) ≤ size := by
  have hmsg : (ascii "\n<b>Message:</b> " ++ [0]).length = 18 := rfl
  have hend := escapedEnd_ge room (r.take room)
  obtain ⟨b₁, hstores, hrun⟩ := htmlspecialchars_pos (b.put pos (ascii "\n<b>Message:</b> " ++ [0])) (pos + 17)
    (r.take room) hroom
  rw [putReason_some b pos room r hroom hmax, hrun, Buf.within_put, Buf.within_put, hstores.within, Buf.within_put, hmsg,
    List.length_singleton]
  by_cases hnil : escaped room (r.take room) = []
  · simp only [hnil, true_or, and_true, List.length_nil]
    constructor
    · rintro ⟨h₁, h₂, h₃, hin⟩
      exact ⟨hin, h₃, by omega, by omega⟩
    · rintro ⟨hin, h₁, h₂, h₃⟩
      exact ⟨by omega, by omega, h₁, hin⟩
  · simp only [hnil, false_or]
    constructor
    · rintro ⟨h₁, h₂, ⟨h₃, hin⟩, h₄⟩
      exact ⟨hin, h₃, h₄, by omega⟩
    · rintro ⟨hin, h₁, h₂, h₃⟩
      exact ⟨by omega, by omega, ⟨h₁, hin⟩, h₂⟩

/-- A reason leaves its own terminator. -/
lemma putReason_nul {size : ℕ} (sps : ℕ) (hin : (putReason b pos sps (some r)).Within size) :
    ∃ n < size, (putReason b pos sps (some r)).mem n = 0 := by
  unfold putReason at hin ⊢
  dsimp only at hin ⊢
  rw [Buf.within_put] at hin
  exact ⟨_, hin.1, Buf.put_cons_mem _ _ 0 []⟩

end Reason

/-! ### The two kinds of target -/

/-- What follows the link to the target. -/
def doneText : ModCmd → List UInt8
  | .ban => ascii " has been banned!"
  | .unban => ascii " has been " ++ ascii "unbanned!"
  | .kick => ascii " has been " ++ ascii "kicked!"
  | .mute => ascii " has been " ++ ascii "muted!"
  | .unmute => ascii " has been " ++ ascii "unmuted!"
  | _ => []

/-- What is said of a target without a sender. -/
def unknownText : ModCmd → List UInt8
  | .ban => ascii "Banned success!"
  | .unban => ascii "(unknown) has been " ++ ascii "unbanned!"
  | .kick => ascii "(unknown) has been " ++ ascii "kicked!"
  | .mute => ascii "(unknown) has been " ++ ascii "muted!"
  | .unmute => ascii "(unknown) has been " ++ ascii "unmuted!"
  | _ => []

section Target

variable {cmd : ModCmd} (hcmd : cmd ∈ naming) {replyTo : Tgev} (reason : CharPtr) (b : Buf) (w : World)

include hcmd

lemma naming_cases : cmd = .ban ∨ cmd = .unban ∨ cmd = .kick ∨ cmd = .mute ∨ cmd = .unmute := by
  simpa [naming] using hcmd

lemma doneReply_named {fr : TgeviFrom} {first : List UInt8} (hfr : replyTo.sender? = some fr)
    (hfirst : fr.firstName = some first) :
    doneReply cmd replyTo reason b w =
      .next (putReason (putLinked b fr.id first fr.lastName (doneText cmd)).1
        (putLinked b fr.id first fr.lastName (doneText cmd)).2.1
        (putLinked b fr.id first fr.lastName (doneText cmd)).2.2 reason) w := by
  have hput : ∀ text other otherSps, putTarget b replyTo.sender? text other otherSps =
      pure (putLinked b fr.id first fr.lastName text) := by
    intro text other otherSps
    rw [hfr]
    simp only [putTarget, hfirst]
  rcases naming_cases hcmd with rfl | rfl | rfl | rfl | rfl <;>
    simp only [doneReply, putBanned, putHasBeen, hput] <;> rfl

lemma doneReply_unknown (hfr : replyTo.sender? = none) :
    doneReply cmd replyTo reason b w =
      .next (putReason (b.put 0 (unknownText cmd ++ [0])) (unknownText cmd).length
        (sizeSub RTB_SIZE (if cmd = .ban then 15 else 0)) reason) w := by
  rcases naming_cases hcmd with rfl | rfl | rfl | rfl | rfl <;>
    simp only [doneReply, putBanned, putHasBeen, putTarget, hfr] <;> rfl

end Target

/-! ### The bounds -/

/-- The escaped text leaves two bytes of the room, or it fills the room and the character that was
looked at last is a special one. -/
def RoomLeft (room : ℕ) (text : List UInt8) : Prop :=
  (escaped room text).length + 2 ≤ room ∨ ((escaped room text).length = room ∧ 2 ≤ lastLen room text)

/-- The reason fits behind a link of `n` bytes. The text of an unban is so long that the last byte of
the room is behind the buffer. -/
def ReasonFits (cmd : ModCmd) (n : ℕ) (reason : CharPtr) : Prop :=
  ∀ r, reason = some r → n ≤ 988 ∧ (cmd = .unban → RoomLeft (988 - n) (r.take (988 - n)))

/-- The parts of the reply fit into `reply_text`. -/
def ComposedFits (cmd : ModCmd) (fr : Option TgeviFrom) (reason : CharPtr) : Prop :=
  match fr with
  | none => cmd = .ban ∨ ∀ r, reason = some r → (unknownText cmd).length + (r.flatMap htmlMap).length ≤ 1005
  | some fr =>
    let n := nameLinkLength fr.id (fr.firstName.getD []) fr.lastName
    n ≤ 1006 ∧ n + (doneText cmd).length ≤ 1023 ∧ ReasonFits cmd n reason

section Bounds

variable {cmd : ModCmd} (hcmd : cmd ∈ naming) {replyTo : Tgev} (reason : CharPtr) (junk : ℕ → UInt8) (w : World)

/-- The space that is left where the reason starts. -/
lemma replySps_named {fr : TgeviFrom} {first : List UInt8} (hfr : replyTo.sender? = some fr)
    (hfirst : fr.firstName = some first) (hid : fr.id < 2 ^ 64) :
    (∀ sps ∈ replySps cmd replyTo.sender? reason (Buf.fresh junk), 0 ≤ sps ∧ sps < 2 ^ 64) ↔
      nameLinkLength fr.id first fr.lastName ≤ 1006 ∧
        (reason.isSome → nameLinkLength fr.id first fr.lastName ≤ 988) := by
  have hspace : sizeSub RTB_SIZE 18 = 1006 := rfl
  have hsize : RTB_SIZE = 1024 := rfl
  have hlink := linkSps_bounds (Buf.fresh junk) hid first fr.lastName
  unfold replySps targetSps
  rw [hfr]
  dsimp only
  rw [hfirst, Option.getD_some, hspace, genNameLink_length _ hid, hsize]
  simp only [List.forall_mem_append, List.forall_mem_cons, List.not_mem_nil, false_implies, implies_true, and_true]
  constructor
  · rintro ⟨⟨-, hn⟩, hreason⟩
    have hle : nameLinkLength fr.id first fr.lastName ≤ 1006 := by omega
    refine ⟨hle, fun hsome => ?_⟩
    rw [if_pos hsome, List.forall_mem_singleton, sizeSub_of_le hle (by decide)] at hreason
    omega
  · rintro ⟨hle, hreason⟩
    refine ⟨⟨⟨by decide, hlink⟩, by omega⟩, ?_⟩
    split
    · rename_i hsome
      have hn := hreason hsome
      rw [List.forall_mem_singleton, sizeSub_of_le hle (by decide)]
      omega
    · simp

lemma doneText_length (hcmd : cmd ∈ naming) :
    ((doneText cmd).length ≤ 18 ∧ cmd ≠ .unban) ∨ ((doneText cmd).length = 19 ∧ cmd = .unban) := by
  rcases naming_cases hcmd with rfl | rfl | rfl | rfl | rfl <;> decide

lemma roomLeft_iff (room : ℕ) (text : List UInt8) :
    RoomLeft room text ↔ escapedEnd room text + 2 ≤ room := by
  have hle := length_escaped_le room text
  unfold RoomLeft escapedEnd htmlRollBack
  split <;> omega

/-- A reason behind a link of `n` bytes and a text of `t` bytes. -/
lemma within_named_reason {b : Buf} {n t : ℕ} (hn : n ≤ 988) (r : List UInt8)
    (ht : (t ≤ 18 ∧ cmd ≠ .unban) ∨ (t = 19 ∧ cmd = .unban)) (hb : b.Within 1024 ↔ n + t ≤ 1023) :
    (putReason b (n + t) (988 - n + 18) (some r)).Within 1024 ↔
      n + t ≤ 1023 ∧ (cmd = .unban → RoomLeft (988 - n) (r.take (988 - n))) := by
  rcases Nat.eq_zero_or_pos (988 - n) with hroom | hroom
  · have hmsg : (ascii "\n<b>Message:</b> " ++ [0]).length = 18 := rfl
    have hnone : ¬RoomLeft 0 [] := by
      rintro (h | ⟨-, h⟩)
      · exact absurd h (by decide)
      · exact absurd h (by decide)
    rw [hroom, Nat.zero_add, putReason_no_space, Buf.within_put, Buf.within_put, hb, hmsg, List.length_singleton,
      List.take_zero]
    rcases ht with ⟨hshort, hother⟩ | ⟨hlong, hunban⟩
    · simp only [hother, false_implies, and_true]
      omega
    · simp only [hunban, hnone, true_implies, and_false, iff_false]
      omega
  · have hle := length_escaped_le (988 - n) (r.take (988 - n))
    have hlt := escapedEnd_lt hroom (r.take (988 - n))
    rw [within_putReason_iff r hroom (by omega), hb, roomLeft_iff]
    rcases ht with ⟨hshort, hother⟩ | ⟨hlong, hunban⟩
    · simp only [hother, false_implies, and_true]
      omega
    · simp only [hunban, true_implies]
      omega

/-- The buffer of a reply that names the target. -/
lemma within_named {fr : TgeviFrom} (first : List UInt8) (hcmd : cmd ∈ naming) (hid : fr.id < 2 ^ 64)
    (hn : nameLinkLength fr.id first fr.lastName ≤ 1006)
    (hreason : reason.isSome → nameLinkLength fr.id first fr.lastName ≤ 988) :
    (putReason (putLinked (Buf.fresh junk) fr.id first fr.lastName (doneText cmd)).1
        (putLinked (Buf.fresh junk) fr.id first fr.lastName (doneText cmd)).2.1
        (putLinked (Buf.fresh junk) fr.id first fr.lastName (doneText cmd)).2.2 reason).Within RTB_SIZE ↔
      nameLinkLength fr.id first fr.lastName + (doneText cmd).length ≤ 1023 ∧
        ReasonFits cmd (nameLinkLength fr.id first fr.lastName) reason := by
  have hspace : sizeSub RTB_SIZE 18 = 1006 := rfl
  have hsize : RTB_SIZE = 1024 := rfl
  have hlinked := within_genNameLink (Buf.fresh junk) hid first (Buf.within_fresh _ _) fr.lastName hn
  have hdone := doneText_length hcmd
  have hput : (putLinked (Buf.fresh junk) fr.id first fr.lastName (doneText cmd)).1.Within RTB_SIZE ↔
      nameLinkLength fr.id first fr.lastName + (doneText cmd).length ≤ 1023 := by
    unfold putLinked
    dsimp only
    rw [hspace, genNameLink_length _ hid, Buf.within_put, List.length_append, List.length_singleton, hsize]
    rw [hsize] at hlinked
    exact ⟨fun h => by omega, fun h => ⟨by omega, hlinked⟩⟩
  cases reason with
  | none =>
    exact hput.trans (by simp [ReasonFits])
  | some r =>
    have hle := hreason rfl
    have hpos : (putLinked (Buf.fresh junk) fr.id first fr.lastName (doneText cmd)).2.1 =
        nameLinkLength fr.id first fr.lastName + (doneText cmd).length := by
      unfold putLinked
      dsimp only
      rw [hspace, genNameLink_length _ hid]
    have hsps : (putLinked (Buf.fresh junk) fr.id first fr.lastName (doneText cmd)).2.2 =
        988 - nameLinkLength fr.id first fr.lastName + 18 := by
      unfold putLinked
      dsimp only
      rw [hspace, genNameLink_length _ hid, sizeSub_of_le hn (by decide)]
      omega
    have hfits : ReasonFits cmd (nameLinkLength fr.id first fr.lastName) (some r) ↔
        (cmd = .unban → RoomLeft (988 - nameLinkLength fr.id first fr.lastName)
          (r.take (988 - nameLinkLength fr.id first fr.lastName))) := by
      simp only [ReasonFits, Option.some.injEq, forall_eq', hle, true_and]
    rw [hpos, hsps, hfits, hsize]
    exact within_named_reason hle r hdone hput

lemma unknownText_length (hcmd : cmd ∈ naming) :
    (cmd = .ban ∧ (unknownText cmd).length = 15) ∨
      (cmd ≠ .ban ∧ 25 ≤ (unknownText cmd).length ∧ (unknownText cmd).length ≤ 28) := by
  rcases naming_cases hcmd with rfl | rfl | rfl | rfl | rfl <;> decide

lemma length_le_escapes (input : List UInt8) : input.length ≤ (input.flatMap htmlMap).length := by
  induction input with
  | nil => exact Nat.le_refl _
  | cons c input ih =>
    have hlen := htmlMap_length c
    rw [List.flatMap_cons, List.length_append, List.length_cons]
    omega

/-- All of a text is kept where all but six bytes of the room would do. -/
lemma length_escaped_take_le_iff {room n : ℕ} (hn : n + 6 ≤ room) (input : List UInt8) :
    (escaped room (input.take room)).length ≤ n ↔ (input.flatMap htmlMap).length ≤ n := by
  have hiff : (escaped room (input.take room)).length ≤ n ↔ ((input.take room).flatMap htmlMap).length ≤ n :=
    Cut.length_code_le_iff (fun c => (htmlMap_length c).2) hn
  rw [hiff]
  rcases Nat.le_total input.length room with hlen | hlen
  · rw [List.take_of_length_le hlen]
  · have htake := length_le_escapes (input.take room)
    have hall := length_le_escapes input
    rw [List.length_take] at htake
    omega

/-- The buffer of a reply that does not name the target. -/
lemma within_unknown (hcmd : cmd ∈ naming) :
    (putReason ((Buf.fresh junk).put 0 (unknownText cmd ++ [0])) (unknownText cmd).length
        (sizeSub RTB_SIZE (if cmd = .ban then 15 else 0)) reason).Within RTB_SIZE ↔
      cmd = .ban ∨ ∀ r, reason = some r → (unknownText cmd).length + (r.flatMap htmlMap).length ≤ 1005 := by
  have hsize : RTB_SIZE = 1024 := rfl
  have hlen := unknownText_length hcmd
  have hput : ((Buf.fresh junk).put 0 (unknownText cmd ++ [0])).Within 1024 := by
    rw [Buf.within_put, List.length_append, List.length_singleton]
    exact ⟨by omega, Buf.within_fresh _ _⟩
  cases reason with
  | none => exact ⟨fun _ => Or.inr (fun r hr => nomatch hr), fun _ => hput⟩
  | some r =>
    rcases hlen with ⟨hban, hlen⟩ | ⟨hother, hlow, hhigh⟩
    · have hsps : sizeSub RTB_SIZE 15 = 991 + 18 := rfl
      have hle := length_escaped_le 991 (r.take 991)
      have hlt := escapedEnd_lt (show 0 < 991 by decide) (r.take 991)
      rw [if_pos hban, hsps, hsize, within_putReason_iff r (by decide) (by decide)]
      simp only [hban, true_or, iff_true]
      rw [hban] at hput hlen
      exact ⟨hput, by omega, by omega, by omega⟩
    · have hsps : sizeSub RTB_SIZE 0 = 1006 + 18 := rfl
      have hall := length_escaped_take_le_iff (show 1005 - (unknownText cmd).length + 6 ≤ 1006 by omega) r
      have hend := escapedEnd_ge 1006 (r.take 1006)
      have hescaped : escapedEnd 1006 (r.take 1006) =
          htmlRollBack 1006 (escaped 1006 (r.take 1006)).length (lastLen 1006 (r.take 1006)) := rfl
      rw [if_neg hother, hsps, hsize, within_putReason_iff r (by decide) (by decide)]
      simp only [hput, hother, true_and, false_or, Option.some.injEq, forall_eq']
      unfold htmlRollBack at hescaped
      constructor
      · rintro ⟨-, hcode, hnul⟩
        split at hescaped <;> omega
      · intro hfit
        have hkept := hall.mpr (by omega)
        split at hescaped <;> omega

/-- The space after a target without a sender does not wrap. -/
lemma replySps_unknown :
    ∀ sps ∈ replySps cmd none reason (Buf.fresh junk), 0 ≤ sps ∧ sps < 2 ^ 64 := by
  have hsize : RTB_SIZE = 1024 := rfl
  have hban : sizeSub RTB_SIZE 15 = 1009 := rfl
  have hother : sizeSub RTB_SIZE 0 = 1024 := rfl
  unfold replySps targetSps
  dsimp only
  rw [List.forall_mem_append, List.forall_mem_singleton]
  constructor
  · rw [hsize]
    split <;> omega
  · split
    · rw [List.forall_mem_singleton]
      split
      · rw [hban]
        omega
      · rw [hother]
        omega
    · exact fun sps hmem => nomatch hmem

/-- A reply ends in a NUL, with or without a reason. -/
lemma putReason_put_nul {b : Buf} {at' : ℕ} {text : List UInt8} {pos sps size : ℕ}
    (hin : (putReason (b.put at' (text ++ [0])) pos sps reason).Within size) :
    ∃ n < size, (putReason (b.put at' (text ++ [0])) pos sps reason).mem n = 0 := by
  cases reason with
  | none =>
    change (b.put at' (text ++ [0])).Within size at hin
    rw [Buf.within_put, List.length_append, List.length_singleton] at hin
    refine ⟨at' + text.length, by omega, ?_⟩
    rw [putReason, Buf.put_mem_append]
    exact Buf.put_cons_mem _ _ 0 []
  | some r => exact putReason_nul _ _ r sps hin

lemma composedSafe_unknown_iff (hcmd : cmd ∈ naming) (hfr : replyTo.sender? = none) :
    ComposedSafe cmd replyTo reason junk w ↔ ComposedFits cmd none reason := by
  have hin := within_unknown reason junk hcmd
  have hrun := doneReply_unknown hcmd reason (Buf.fresh junk) w hfr
  constructor
  · rintro ⟨⟨b, hb, hwithin, -⟩, -⟩
    rw [hrun] at hb
    cases hb
    exact hin.mp hwithin
  · intro hfits
    have hwithin := hin.mpr hfits
    exact ⟨⟨_, hrun, hwithin, putReason_put_nul reason hwithin⟩, hfr ▸ replySps_unknown reason junk⟩

lemma composedSafe_named_iff (hcmd : cmd ∈ naming) {fr : TgeviFrom} {first : List UInt8} (hfr : replyTo.sender? = some fr)
    (hfirst : fr.firstName = some first) (hid : fr.id < 2 ^ 64) :
    ComposedSafe cmd replyTo reason junk w ↔ ComposedFits cmd (some fr) reason := by
  have hrun := doneReply_named hcmd reason (Buf.fresh junk) w hfr hfirst
  have hsps := @replySps_named cmd _ reason junk _ _ hfr hfirst hid
  have hin := within_named reason junk first hcmd hid
  unfold ComposedFits
  dsimp only
  rw [hfirst, Option.getD_some]
  constructor
  · rintro ⟨⟨b, hb, hwithin, -⟩, hcounter⟩
    rw [hrun] at hb
    cases hb
    obtain ⟨hn, hreason⟩ := hsps.mp hcounter
    exact ⟨hn, (hin hn hreason).mp hwithin⟩
  · rintro ⟨hn, hfits⟩
    have hreason : reason.isSome → nameLinkLength fr.id first fr.lastName ≤ 988 := by
      intro hsome
      obtain ⟨r, rfl⟩ := Option.isSome_iff_exists.mp hsome
      exact (hfits.2 r rfl).1
    have hwithin := (hin hn hreason).mpr hfits
    exact ⟨⟨_, hrun, hwithin, putReason_put_nul reason hwithin⟩, hsps.mpr ⟨hn, hreason⟩⟩

/-- The success reply of a command that names its target is composed safely exactly where its parts
fit. -/
theorem moderation_reply_safe_iff (hcmd : cmd ∈ naming) (hnamed : Named replyTo.sender?)
    (hid : ∀ fr, replyTo.sender? = some fr → fr.id < 2 ^ 64) :
    ComposedSafe cmd replyTo reason junk w ↔ ComposedFits cmd replyTo.sender? reason := by
  cases hfr : replyTo.sender? with
  | none => exact composedSafe_unknown_iff reason junk w hcmd hfr
  | some fr =>
    obtain ⟨first, hfirst⟩ := Option.ne_none_iff_exists'.mp (hnamed fr hfr)
    exact composedSafe_named_iff reason junk w hcmd hfr hfirst (hid fr hfr)

end Bounds

/-! ### Short and long names -/

def shortTarget : Tgev where
  msg := .text { header := { sender := { id := 7, firstName := some (ascii "A"), lastName := some (ascii "B") } } }

theorem moderation_reply_safe_short :
    ModCmd.ban ∈ naming ∧ Named shortTarget.sender? ∧ (∀ fr, shortTarget.sender? = some fr → fr.id < 2 ^ 64) ∧
      ComposedSafe .ban shortTarget (some (ascii "spam")) (fun _ => 255) reportWorld := by
  have hnamed : Named shortTarget.sender? := by
    intro fr hfr
    cases hfr
    exact Option.some_ne_none _
  have hid : ∀ fr, shortTarget.sender? = some fr → fr.id < 2 ^ 64 := by
    intro fr hfr
    cases hfr
    decide
  refine ⟨by decide, hnamed, hid,
    (moderation_reply_safe_iff (some (ascii "spam")) (fun _ => 255) reportWorld (by decide) hnamed hid).mpr ?_⟩
  refine ⟨by decide, by decide, ?_⟩
  intro r _
  exact ⟨by decide, fun hunban => absurd hunban (by decide)⟩

/-- The two names have 1530 bytes of escapes each. -/
def quotedUser : TgeviFrom where
  id := 7
  firstName := some (List.replicate 255 34)
  lastName := some (List.replicate 255 34)

def quotedTarget : Tgev where
  msg := .text { header := { sender := quotedUser } }

/-- The first name leaves more space than there was before it, so the last name is not cut either. -/
theorem ban_reply_overrun : ¬ComposedSafe .ban quotedTarget none (fun _ => 255) reportWorld := by
  have hid : quotedUser.id < 2 ^ 64 := by decide
  have hlink : (linkText quotedUser.id).length = 25 := by decide
  have htake : (List.replicate 255 (34 : UInt8)).take 0xff = List.replicate 255 34 :=
    List.take_of_length_le List.length_replicate.le
  have hescapes : ((List.replicate 255 (34 : UInt8)).flatMap htmlMap).length = 1530 := length_escapes_replicate 255 34
  have hfirst := escapedEnd_kept (show 6 ≤ 976 by decide) (List.replicate 255 34)
  have hcut := escapedEnd_of_le (show 976 ≤ ((List.replicate 255 (34 : UInt8)).flatMap htmlMap).length by
    rw [hescapes]
    decide)
  rw [htake] at hfirst
  have hlast := escapedEnd_kept (show 6 ≤ 976 + keptLength 976 (List.replicate 255 34) + 1 by omega)
    (List.replicate 255 34)
  rw [htake, escapedEnd_of_lt (by omega), hescapes] at hlast
  rw [composedSafe_named_iff none (fun _ => 255) reportWorld (by decide) rfl rfl hid]
  rintro ⟨hlen, -⟩
  have hfn : quotedUser.firstName.getD [] = List.replicate 255 34 := rfl
  have hln : quotedUser.lastName = some (List.replicate 255 34) := rfl
  unfold nameLinkLength at hlen
  simp only [hfn, hln, hlink, Nat.reduceSub] at hlen
  omega

end GNUWeebBot.Proofs
