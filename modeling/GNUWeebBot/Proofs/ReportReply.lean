import GNUWeebBot.Model.Admin
import GNUWeebBot.Proofs.HtmlText

/-!
# The buffer of a report

Each administrator takes the text of a line and one byte more from the space that is left. The reply
stays in its buffer as long as the link of each line fits with the six bytes that are set aside; a
name may be cut in the last line only, as less than a link is left behind it.
-/

namespace GNUWeebBot.Proofs

open Fill

/-! ### The subtractions from the space -/

/-- The link of a line. -/
def ccLink (id : ℕ) : List UInt8 := ascii "Cc: <a href=\"tg://user?id=" ++ ascii (toString id) ++ ascii "\">"

lemma ccLink_length (id : ℕ) : 28 ≤ (ccLink id).length := by
  have hopen : (ascii "Cc: <a href=\"tg://user?id=").length = 26 := rfl
  have hclose : (ascii "\">").length = 2 := rfl
  simp only [ccLink, List.length_append]
  omega

/-- What the name adds to the text, as the code computes it in `tmp`. -/
def ccTmp (room : ℕ) (fn : List UInt8) : ℤ :=
  if room = 0 then 0 else if escapedEnd room fn = -1 then 0 else escapedEnd room fn

/-- What one line takes from `sps`: the values before, and what is subtracted. -/
def ccSubtractions (b : Buf) (pos sps id : ℕ) (fn : List UInt8) : List (ℕ × ℕ) :=
  let rest := sizeSub sps 6
  let room := sizeSub rest (ccLink id).length
  let name := htmlspecialchars (snprintf b pos rest (ccLink id)) (pos + (ccLink id).length) room (fn.take 0xff)
  [(sps, 6), (rest, (ccLink id).length), (room, sizeAdd 0 (if name.2 ≠ 0 then name.2 - 1 else name.2))]

def reportSubtractions (b : Buf) (pos sps : ℕ) : List TgaChatMember → List (ℕ × ℕ)
  | [] => []
  | admin :: admins =>
    if admin.user.isBot then reportSubtractions b pos sps admins
    else
      match admin.user.firstName with
      | none => []
      | some fn =>
        let r := putCc b pos sps admin.user.id fn
        ccSubtractions b pos sps admin.user.id fn ++ reportSubtractions r.1 r.2.1 r.2.2 admins

/-- The reply is composed in its 4096 bytes, with a NUL among them, and `sps` does not wrap. -/
structure ReportSafe (junk : ℕ → UInt8) (admins : List TgaChatMember) (w : World) : Prop where
  composed : ∃ b, constructReportReply (Buf.fresh junk) 4096 admins w = .next b w ∧ b.Within 4096 ∧
    ∃ n < 4096, b.mem n = 0
  counter : ∀ a ∈ (4096, 20) ::
    reportSubtractions ((Buf.fresh junk).put 0 (ascii "Reported to admins!\n" ++ [0])) 20 (sizeSub 4096 20) admins, a.2 ≤ a.1

/-! ### One line -/

/-- The name takes `tmp` below zero: it fills the few bytes there are, and the escape that does not fit
is at least two bytes longer. -/
def RollsBack (room : ℕ) (fn : List UInt8) : Prop :=
  0 < room ∧ (escaped room fn).length = room ∧ room + 2 ≤ lastLen room fn

lemma ccTmp_le (room : ℕ) (fn : List UInt8) : ccTmp room fn ≤ room := by
  unfold ccTmp
  split
  · omega
  · split
    · omega
    · have hlt := escapedEnd_lt (show 0 < room by omega) fn
      omega

lemma ccTmp_ge (room : ℕ) (fn : List UInt8) : -6 ≤ ccTmp room fn := by
  have hend := escapedEnd_ge room fn
  unfold ccTmp
  split_ifs <;> omega

lemma ccTmp_of_lt {room : ℕ} {fn : List UInt8} (h : (fn.flatMap htmlMap).length < room) :
    ccTmp room fn = (fn.flatMap htmlMap).length := by
  have hend := escapedEnd_of_lt h
  unfold ccTmp
  split_ifs <;> omega

lemma ccTmp_of_le {room : ℕ} {fn : List UInt8} (h : room ≤ (fn.flatMap htmlMap).length) : room ≤ ccTmp room fn + 6 := by
  have hend := escapedEnd_of_le h
  unfold ccTmp
  split_ifs <;> omega

lemma ccTmp_nonneg_iff (room : ℕ) (fn : List UInt8) : 0 ≤ ccTmp room fn ↔ ¬RollsBack room fn := by
  unfold ccTmp RollsBack escapedEnd htmlRollBack
  have hle := length_escaped_le room fn
  split
  · omega
  · split <;> split_ifs <;> omega

lemma htmlspecialchars_tmp (b : Buf) (off room : ℕ) (fn : List UInt8) :
    (if (htmlspecialchars b off room fn).2 ≠ 0 then (htmlspecialchars b off room fn).2 - 1
      else (htmlspecialchars b off room fn).2) = ccTmp room fn := by
  unfold ccTmp
  rcases Nat.eq_zero_or_pos room with rfl | hroom
  · rw [htmlspecialchars_zero]
    rfl
  · obtain ⟨b₁, -, hrun⟩ := htmlspecialchars_pos b off fn hroom
    rw [hrun, if_neg (Nat.ne_of_gt hroom)]
    dsimp only
    split_ifs <;> omega

section Line

variable {b : Buf} {pos sps id : ℕ} {fn : List UInt8} (hsps : (ccLink id).length + 6 ≤ sps) (hsum : pos + sps ≤ 4096)

include hsps hsum

lemma ccSubtractions_iff :
    (∀ a ∈ ccSubtractions b pos sps id fn, a.2 ≤ a.1) ↔ ¬RollsBack (sps - 6 - (ccLink id).length) (fn.take 0xff) := by
  have hle := ccTmp_le (sps - 6 - (ccLink id).length) (fn.take 0xff)
  have hge := ccTmp_ge (sps - 6 - (ccLink id).length) (fn.take 0xff)
  have hnonneg := ccTmp_nonneg_iff (sps - 6 - (ccLink id).length) (fn.take 0xff)
  unfold ccSubtractions
  dsimp only
  rw [sizeSub_of_le (show 6 ≤ sps by omega) (by omega), sizeSub_of_le (show (ccLink id).length ≤ sps - 6 by omega) (by omega),
    htmlspecialchars_tmp, ← hnonneg]
  simp only [List.forall_mem_cons, List.not_mem_nil, false_implies, implies_true, and_true]
  unfold sizeAdd
  omega

/-- A line that fits, its name perhaps cut. -/
lemma putCc_spec (hin : b.Within 4096) (htmp : ¬RollsBack (sps - 6 - (ccLink id).length) (fn.take 0xff)) :
    (putCc b pos sps id fn).1.Within 4096 ∧
      (putCc b pos sps id fn).2.1 =
        pos + (ccLink id).length + (ccTmp (sps - 6 - (ccLink id).length) (fn.take 0xff)).toNat + 5 ∧
      (putCc b pos sps id fn).2.2 =
        sps - 6 - (ccLink id).length - (ccTmp (sps - 6 - (ccLink id).length) (fn.take 0xff)).toNat ∧
      (putCc b pos sps id fn).1.mem (putCc b pos sps id fn).2.1 = 0 := by
  have hle := ccTmp_le (sps - 6 - (ccLink id).length) (fn.take 0xff)
  rw [← ccTmp_nonneg_iff] at htmp
  have hlen := ccLink_length id
  have hlink : ascii "Cc: <a href=\"tg://user?id=" ++ ascii (toString id) ++ ascii "\">" = ccLink id := rfl
  unfold putCc
  dsimp only
  rw [hlink, sizeSub_of_le (show 6 ≤ sps by omega) (by omega),
    sizeSub_of_le (show (ccLink id).length ≤ sps - 6 by omega) (by omega), htmlspecialchars_tmp]
  obtain ⟨tmp, htmp⟩ := Int.eq_ofNat_of_zero_le htmp
  rw [htmp] at hle ⊢
  have hend : (((pos + (ccLink id).length : ℕ) : ℤ) + (tmp : ℤ)).toNat = pos + (ccLink id).length + tmp := by omega
  have htoNat : (tmp : ℤ).toNat = tmp := rfl
  rw [hend, htoNat]
  refine ⟨?_, rfl, ?_, ?_⟩
  · rw [Buf.within_put]
    constructor
    · change pos + (ccLink id).length + tmp + 6 ≤ 4096
      omega
    · apply within_htmlspecialchars
      · have hspace : ¬sps - 6 = 0 := by omega
        rw [snprintf, if_neg hspace, Buf.within_put]
        refine ⟨?_, hin⟩
        simp only [List.length_append, List.length_take, List.length_singleton]
        omega
      · omega
  · unfold sizeAdd
    omega
  · rw [Buf.put_mem_add _ _ _ (by decide)]
    rfl

end Line

/-! ### All lines -/

/-- The lines fit, one after the other: `room` is the space before each of them. -/
def ReportFits : ℕ → List TgaChatMember → Prop
  | _, [] => True
  | room, admin :: admins =>
    if admin.user.isBot then ReportFits room admins
    else
      let link := ccLink admin.user.id
      let fn := (admin.user.firstName.getD []).take 0xff
      link.length + 6 ≤ room ∧ ¬RollsBack (room - 6 - link.length) fn ∧
        ReportFits (room - (link.length + (fn.flatMap htmlMap).length + 6)) admins

/-- The rest of the reply is composed in the buffer. -/
structure RestSafe (b : Buf) (pos sps : ℕ) (admins : List TgaChatMember) (w : World) : Prop where
  composed : ∃ b', putReportedAll b pos sps admins w = .next b' w ∧ b'.Within 4096 ∧ ∃ n < 4096, b'.mem n = 0
  counter : ∀ a ∈ reportSubtractions b pos sps admins, a.2 ≤ a.1

section Lines

variable {b : Buf} {pos sps : ℕ} {admin : TgaChatMember} {admins : List TgaChatMember} {w : World}

lemma restSafe_bot (hbot : admin.user.isBot = true) :
    RestSafe b pos sps (admin :: admins) w ↔ RestSafe b pos sps admins w := by
  have hrun : putReportedAll b pos sps (admin :: admins) w = putReportedAll b pos sps admins w := by
    change Fill.bind (putReported b pos sps admin.user) _ w = _
    rw [putReported, if_pos hbot]
    rfl
  have hcounter : reportSubtractions b pos sps (admin :: admins) = reportSubtractions b pos sps admins := by
    rw [reportSubtractions, if_pos hbot]
  constructor
  · rintro ⟨hcomposed, hsubs⟩
    exact ⟨hrun ▸ hcomposed, hcounter ▸ hsubs⟩
  · rintro ⟨hcomposed, hsubs⟩
    exact ⟨hrun ▸ hcomposed, hcounter ▸ hsubs⟩

lemma restSafe_cc (hbot : ¬admin.user.isBot = true) {fn : List UInt8} (hfn : admin.user.firstName = some fn) :
    RestSafe b pos sps (admin :: admins) w ↔
      (∀ a ∈ ccSubtractions b pos sps admin.user.id fn, a.2 ≤ a.1) ∧
        RestSafe (putCc b pos sps admin.user.id fn).1 (putCc b pos sps admin.user.id fn).2.1
          (putCc b pos sps admin.user.id fn).2.2 admins w := by
  have hrun : putReportedAll b pos sps (admin :: admins) w =
      putReportedAll (putCc b pos sps admin.user.id fn).1 (putCc b pos sps admin.user.id fn).2.1
        (putCc b pos sps admin.user.id fn).2.2 admins w := by
    have hput : putReported b pos sps admin.user w = .next (putCc b pos sps admin.user.id fn) w := by
      rw [putReported, if_neg hbot, hfn]
      rfl
    generalize putCc b pos sps admin.user.id fn = line at hput
    exact bind_of_next hput
  have hcounter : reportSubtractions b pos sps (admin :: admins) =
      ccSubtractions b pos sps admin.user.id fn ++
        reportSubtractions (putCc b pos sps admin.user.id fn).1 (putCc b pos sps admin.user.id fn).2.1
          (putCc b pos sps admin.user.id fn).2.2 admins := by
    rw [reportSubtractions, if_neg hbot, hfn]
  constructor
  · rintro ⟨hcomposed, hsubs⟩
    rw [hrun] at hcomposed
    rw [hcounter, List.forall_mem_append] at hsubs
    exact ⟨hsubs.1, hcomposed, hsubs.2⟩
  · rintro ⟨hfirst, hcomposed, hsubs⟩
    constructor
    · rw [hrun]
      exact hcomposed
    · rw [hcounter, List.forall_mem_append]
      exact ⟨hfirst, hsubs⟩

/-- The first subtractions of a line that has no space wrap. -/
lemma not_ccSubtractions (b : Buf) (pos : ℕ) {id : ℕ} (fn : List UInt8) (hsps : sps < (ccLink id).length + 6)
    (hmax : sps ≤ 4096) : ¬∀ a ∈ ccSubtractions b pos sps id fn, a.2 ≤ a.1 := by
  unfold ccSubtractions
  simp only [List.forall_mem_cons]
  rintro ⟨hsix, hlink, -⟩
  rw [sizeSub_of_le hsix (by omega)] at hlink
  omega

/-- Once a name was cut, `sps` is too small for any other line. -/
lemma restSafe_iff (hin : b.Within 4096) (hpos : pos < 4096) (hnul : b.mem pos = 0) (hsum : pos + sps ≤ 4096)
    (hnames : ∀ admin ∈ admins, admin.user.firstName ≠ none) {room : ℕ} (hroom : sps = room ∨ room = 0 ∧ sps ≤ 6) :
    RestSafe b pos sps admins w ↔ ReportFits room admins := by
  induction admins generalizing b pos sps room with
  | nil =>
    simp only [ReportFits, iff_true]
    exact ⟨⟨b, rfl, hin, pos, hpos, hnul⟩, by simp [reportSubtractions]⟩
  | cons admin admins ih =>
    rw [List.forall_mem_cons] at hnames
    unfold ReportFits
    by_cases hbot : admin.user.isBot = true
    · rw [if_pos hbot, restSafe_bot hbot]
      exact ih hin hpos hnul hsum hnames.2 hroom
    · obtain ⟨fn, hfn⟩ := Option.ne_none_iff_exists'.mp hnames.1
      have hlink := ccLink_length admin.user.id
      rw [if_neg hbot, restSafe_cc hbot hfn]
      dsimp only
      rw [hfn, Option.getD_some]
      by_cases hspace : (ccLink admin.user.id).length + 6 ≤ sps
      · obtain rfl : sps = room := by omega
        rw [ccSubtractions_iff hspace hsum]
        by_cases hback : RollsBack (sps - 6 - (ccLink admin.user.id).length) (fn.take 0xff)
        · simp [hback]
        · obtain ⟨hin', hpos', hsps', hnul'⟩ := putCc_spec hspace hsum hin hback
          simp only [hback, hspace, not_false_eq_true, true_and]
          have hle := ccTmp_le (sps - 6 - (ccLink admin.user.id).length) (fn.take 0xff)
          apply ih hin' ?_ hnul' ?_ hnames.2
          · rw [hsps']
            rcases Nat.lt_or_ge ((fn.take 0xff).flatMap htmlMap).length (sps - 6 - (ccLink admin.user.id).length) with hfit | hcut
            · have htmp := ccTmp_of_lt hfit
              omega
            · have htmp := ccTmp_of_le hcut
              omega
          · rw [hpos']
            omega
          · rw [hpos', hsps']
            omega
      · have hzero : ¬((ccLink admin.user.id).length + 6 ≤ room) := by omega
        have hsubs := not_ccSubtractions b pos fn (show sps < (ccLink admin.user.id).length + 6 by omega) (by omega)
        simp only [hsubs, hzero, false_and]

end Lines

/-- The loop starts behind the first line. -/
lemma reportSafe_iff_rest (junk : ℕ → UInt8) (admins : List TgaChatMember) (w : World) :
    ReportSafe junk admins w ↔
      RestSafe ((Buf.fresh junk).put 0 (ascii "Reported to admins!\n" ++ [0])) 20 (sizeSub 4096 20) admins w := by
  constructor
  · rintro ⟨hcomposed, hsubs⟩
    rw [List.forall_mem_cons] at hsubs
    exact ⟨hcomposed, hsubs.2⟩
  · rintro ⟨hcomposed, hsubs⟩
    refine ⟨hcomposed, ?_⟩
    rw [List.forall_mem_cons]
    exact ⟨by decide, hsubs⟩

lemma restSafe_first_iff (junk : ℕ → UInt8) {admins : List TgaChatMember}
    (hnames : ∀ admin ∈ admins, admin.user.firstName ≠ none) (w : World) :
    RestSafe ((Buf.fresh junk).put 0 (ascii "Reported to admins!\n" ++ [0])) 20 (sizeSub 4096 20) admins w ↔
      ReportFits 4076 admins := by
  have hsps : sizeSub 4096 20 = 4076 := rfl
  have hin : ((Buf.fresh junk).put 0 (ascii "Reported to admins!\n" ++ [0])).Within 4096 := by
    rw [Buf.within_put]
    exact ⟨by decide, Buf.within_fresh _ _⟩
  have hnul : ((Buf.fresh junk).put 0 (ascii "Reported to admins!\n" ++ [0])).mem 20 = 0 :=
    Buf.put_mem_add (Buf.fresh junk) 0 (ascii "Reported to admins!\n" ++ [0]) (show 20 < 21 by decide)
  rw [hsps]
  exact restSafe_iff hin (by decide) hnul (by decide) hnames (Or.inl rfl)

/-- The report is composed safely exactly where each administrator's line fits. -/
theorem report_reply_safe_iff (junk : ℕ → UInt8) (admins : List TgaChatMember)
    (hnames : ∀ admin ∈ admins, admin.user.firstName ≠ none) (w : World) :
    ReportSafe junk admins w ↔ ReportFits 4076 admins :=
  (reportSafe_iff_rest junk admins w).trans (restSafe_first_iff junk hnames w)

/-! ### A few long names -/

/-- Each of the 255 characters has an escape of six bytes. -/
def quotedAdmin : TgaChatMember where
  user := { id := 1, firstName := some (List.replicate 255 34) }

def reportWorld : World where
  respond _ := ⟨0, some .null, fun _ => rfl⟩
  strerror _ := []
  junk _ := 255
  calls := []

lemma length_escapes_replicate (n : ℕ) (c : UInt8) :
    ((List.replicate n c).flatMap htmlMap).length = n * (htmlMap c).length := by
  rw [List.length_flatMap, List.map_replicate, List.sum_replicate_nat]

lemma reportFits_quotedAdmin (room : ℕ) (admins : List TgaChatMember) :
    ReportFits room (quotedAdmin :: admins) ↔
      35 ≤ room ∧ ¬RollsBack (room - 6 - 29) (List.replicate 255 34) ∧ ReportFits (room - 1565) admins := by
  have hfn : (quotedAdmin.user.firstName.getD []).take 0xff = List.replicate 255 34 :=
    List.take_of_length_le (List.length_replicate.le)
  have hlink : (ccLink quotedAdmin.user.id).length = 29 := by decide
  have hescaped : ((List.replicate 255 (34 : UInt8)).flatMap htmlMap).length = 1530 := length_escapes_replicate 255 34
  have hbot : ¬quotedAdmin.user.isBot = true := by decide
  conv_lhs => unfold ReportFits
  rw [if_neg hbot]
  dsimp only
  rw [hfn, hlink, hescaped]

lemma not_rollsBack {room : ℕ} (fn : List UInt8) (h : 4 < room) : ¬RollsBack room fn := by
  have hlast := lastLen_le room fn
  rintro ⟨-, -, hlong⟩
  omega

lemma quotedAdmin_named (n : ℕ) : ∀ admin ∈ List.replicate n quotedAdmin, admin.user.firstName ≠ none := by
  intro admin hadmin
  rw [List.eq_of_mem_replicate hadmin]
  exact Option.some_ne_none _

theorem report_reply_safe_two :
    (∀ admin ∈ List.replicate 2 quotedAdmin, admin.user.firstName ≠ none) ∧
      ReportSafe (fun _ => 255) (List.replicate 2 quotedAdmin) reportWorld := by
  refine ⟨quotedAdmin_named 2, (report_reply_safe_iff _ _ (quotedAdmin_named 2) reportWorld).mpr ?_⟩
  apply (reportFits_quotedAdmin _ _).mpr
  refine ⟨by decide, not_rollsBack _ (by decide), ?_⟩
  apply (reportFits_quotedAdmin _ _).mpr
  exact ⟨by decide, not_rollsBack _ (by decide), trivial⟩

/-- The fourth line has no space left. -/
theorem report_reply_overrun : ¬ReportSafe (fun _ => 255) (List.replicate 4 quotedAdmin) reportWorld := by
  rw [reportSafe_iff_rest, restSafe_first_iff _ (quotedAdmin_named 4)]
  intro hfirst
  obtain ⟨-, -, hsecond⟩ := (reportFits_quotedAdmin _ _).mp hfirst
  obtain ⟨-, -, hthird⟩ := (reportFits_quotedAdmin _ _).mp hsecond
  obtain ⟨-, -, hfourth⟩ := (reportFits_quotedAdmin _ _).mp hthird
  obtain ⟨hspace, -, -⟩ := (reportFits_quotedAdmin _ _).mp hfourth
  exact absurd hspace (by decide)

end GNUWeebBot.Proofs
