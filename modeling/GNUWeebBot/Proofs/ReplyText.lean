import GNUWeebBot.Model.Admin
import GNUWeebBot.Proofs.HtmlText

/-!
# The first byte of a reply

The replies that announce success start with another byte than the error texts: what is written
after the first byte never goes back to it.
-/

namespace GNUWeebBot.Proofs

open Fill

/-- What `htmlspecialchars` returns can be a little below zero. -/
lemma htmlspecialchars_ret (b : Buf) (off outlen : ℕ) (input : List UInt8) :
    -5 ≤ (htmlspecialchars b off outlen input).2 := by
  rcases Nat.eq_zero_or_pos outlen with rfl | houtlen
  · rw [htmlspecialchars_zero]
    exact (show (-5 : ℤ) ≤ 0 by decide)
  · obtain ⟨b₁, -, hrun⟩ := htmlspecialchars_pos b off input houtlen
    have hend := escapedEnd_ge outlen input
    rw [hrun]
    dsimp only
    omega

/-- So its terminator can be a little before its output. -/
lemma htmlspecialchars_mem_zero (b : Buf) {off : ℕ} (outlen : ℕ) (input : List UInt8) (hoff : 6 ≤ off) :
    (htmlspecialchars b off outlen input).1.mem 0 = b.mem 0 := by
  rcases Nat.eq_zero_or_pos outlen with rfl | houtlen
  · rw [htmlspecialchars_zero]
  · obtain ⟨b₁, hstores, hrun⟩ := htmlspecialchars_pos b off input houtlen
    have hend := escapedEnd_ge outlen input
    rw [hrun]
    dsimp only
    rw [Buf.put_mem_of_lt _ _ (by omega), hstores.mem_of_lt (by omega)]

/-! ### The replies that announce success -/

/-- What follows an escaped text is not written at the start of the buffer. -/
lemma after_escaped_mem_zero (b : Buf) {off : ℕ} (outlen : ℕ) (input bytes : List UInt8) (hoff : 7 ≤ off) :
    ((htmlspecialchars b off outlen input).1.put (off + ((htmlspecialchars b off outlen input).2 - 1)).toNat bytes).mem 0 =
      b.mem 0 := by
  have hret := htmlspecialchars_ret b off outlen input
  rw [Buf.put_mem_of_lt _ _ (by omega), htmlspecialchars_mem_zero _ _ _ (by omega)]

lemma putReason_mem_zero (b : Buf) {pos : ℕ} (sps : ℕ) (reason : CharPtr) (hpos : 0 < pos) :
    (putReason b pos sps reason).mem 0 = b.mem 0 := by
  cases reason with
  | none => rfl
  | some reason =>
    have hput := after_escaped_mem_zero (b.put pos (ascii "\n<b>Message:</b> " ++ [0])) (sizeSub sps 18)
      (reason.take (sizeSub sps 18)) [0] (show 7 ≤ pos + 17 by omega)
    rw [← Int.add_sub_assoc] at hput
    exact hput.trans (Buf.put_mem_of_lt b _ hpos)

lemma snprintf_mem_zero (b : Buf) {size : ℕ} (c : UInt8) (text : List UInt8) (hsize : 2 ≤ size) :
    (snprintf b 0 size (c :: text)).mem 0 = c := by
  obtain ⟨size, rfl⟩ : ∃ n, size = n + 2 := ⟨size - 2, by omega⟩
  exact Buf.put_cons_mem b 0 c _

lemma linkText_length (id : ℕ) : 24 ≤ (linkText id).length := by
  have hopen : (ascii "<a href=\"tg://user?id=").length = 22 := rfl
  have hclose : (ascii "\">").length = 2 := rfl
  simp only [linkText, List.length_append]
  omega

lemma snprintf_linkText (b : Buf) {size : ℕ} (id : ℕ) (hsize : 2 ≤ size) :
    (snprintf b 0 size (linkText id)).mem 0 = 60 :=
  snprintf_mem_zero b 60 _ hsize

lemma genNameLink_spec (b : Buf) {sps : ℕ} (id : ℕ) (first : List UInt8) (last : CharPtr) (hsps : 32 ≤ sps)
    (hmax : sps < 2 ^ 64) :
    (genNameLink b sps id first last).1.mem 0 = 60 ∧ 0 < (genNameLink b sps id first last).2 := by
  have hlink := linkText_length id
  have hsize : 2 ≤ sizeSub sps 5 := by
    rw [sizeSub_of_le (by omega) hmax]
    omega
  have hoff : 7 ≤ (linkText id).length := by omega
  have hopen := snprintf_linkText b id hsize
  have hfirst := fun bytes => (after_escaped_mem_zero (snprintf b 0 (sizeSub sps 5) (linkText id))
    (sizeSub (sizeSub sps 5) (linkText id).length) (first.take 0xff) bytes hoff).trans hopen
  have hret := htmlspecialchars_ret (snprintf b 0 (sizeSub sps 5) (linkText id)) (linkText id).length
    (sizeSub (sizeSub sps 5) (linkText id).length) (first.take 0xff)
  unfold genNameLink
  rw [if_neg (by omega)]
  cases last with
  | none => exact ⟨hfirst _, Nat.succ_pos _⟩
  | some last => exact ⟨(after_escaped_mem_zero _ _ _ _ (by omega)).trans (hfirst _), Nat.succ_pos _⟩

/-- The sender of the target, where it has one, has a first name. -/
def Named (fr : Option TgeviFrom) : Prop := ∀ f, fr = some f → f.firstName ≠ none

section Target

variable (b : Buf) (text : List UInt8) (c : UInt8) (other : List UInt8) (otherSps : ℕ) (w : World)

lemma putLinked_spec (id : ℕ) (first : List UInt8) (last : CharPtr) :
    (putLinked b id first last text).1.mem 0 = 60 ∧ 0 < (putLinked b id first last text).2.1 := by
  have hlink := genNameLink_spec b id first last (show 32 ≤ sizeSub RTB_SIZE 18 by decide) (by decide)
  constructor
  · exact (Buf.put_mem_of_lt _ _ hlink.2).trans hlink.1
  · exact Nat.add_pos_left hlink.2 _

lemma putTarget_named {fr : Option TgeviFrom} (h : Named fr) :
    ∃ r, putTarget b fr text (c :: other) otherSps w = .next r w ∧ (r.1.mem 0 = 60 ∨ r.1.mem 0 = c) ∧ 0 < r.2.1 := by
  cases fr with
  | none => exact ⟨_, rfl, Or.inr (Buf.put_cons_mem b 0 c _), Nat.succ_pos _⟩
  | some f =>
    cases hfirst : f.firstName with
    | none => exact absurd hfirst (h f rfl)
    | some first =>
      have hlinked := putLinked_spec b text f.id first f.lastName
      refine ⟨putLinked b f.id first f.lastName text, ?_, Or.inl hlinked.1, hlinked.2⟩
      unfold putTarget
      simp only [hfirst]
      rfl

lemma putTarget_unnamed {fr : Option TgeviFrom} (h : ¬Named fr) :
    putTarget b fr text other otherSps w = .fault .strnlenNull w := by
  simp only [Named, not_forall, not_not] at h
  obtain ⟨f, rfl, hfirst⟩ := h
  unfold putTarget
  simp only [hfirst]
  rfl

end Target

/-! ### The text in the buffer -/

lemma replyString_head {b : Buf} (h : b.mem 0 ≠ 0) : (replyString b).head? = some (b.mem 0) := by
  have hmax : sendMsgMax = 8617 + 1 := rfl
  unfold replyString
  rw [hmax, Buf.cstr, if_neg h, List.head?_cons]

lemma replyString_put (b : Buf) {text : List UInt8} (h : text.length < sendMsgMax) :
    replyString (b.put 0 (text ++ [0])) = cString text := by
  have hself := Buf.read_put_self b 0 (text ++ [0])
  rw [List.length_append, Buf.read_add] at hself
  obtain ⟨hread, hlast⟩ := List.append_inj hself (Buf.read_length _ _ _)
  have hzero : (b.put 0 (text ++ [0])).mem (0 + text.length) = 0 := by simpa [Buf.read] using hlast
  rw [replyString, Buf.cstr_eq_takeWhile _ 0 text.length sendMsgMax h hzero, hread]
  rfl

lemma replyString_snprintf (b : Buf) (text : List UInt8) :
    replyString (snprintf b 0 RTB_SIZE text) = cString (text.take (RTB_SIZE - 1)) := by
  have hlen : (text.take (RTB_SIZE - 1)).length < sendMsgMax := by
    apply Nat.lt_of_le_of_lt (List.length_take_le _ _)
    decide
  exact replyString_put b hlen

end GNUWeebBot.Proofs
