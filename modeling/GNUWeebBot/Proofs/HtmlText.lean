import GNUWeebBot.Lib.Cut
import GNUWeebBot.Model.HtmlText

/-!
# What `htmlspecialchars` writes

The loop stores the escapes of the characters that fit. The terminator comes one byte after the end
of the text, so it is behind the output where the text ends two bytes before the end of it or later,
and the byte that should be the terminator keeps what it was.
-/

namespace GNUWeebBot.Proofs

lemma htmlMap_cases (c : UInt8) :
    (htmlMap c = [c]) ∨ (4 ≤ (htmlMap c).length ∧ (htmlMap c).length ≤ 6 ∧ 0 ∉ htmlMap c ∧ c ≠ 0) := by
  unfold htmlMap
  split
  · rename_i h
    exact Or.inr (h ▸ by decide)
  · split
    · rename_i h
      exact Or.inr (h ▸ by decide)
    · split
      · rename_i h
        exact Or.inr (h ▸ by decide)
      · split
        · rename_i h
          exact Or.inr (h ▸ by decide)
        · exact Or.inl rfl

lemma htmlMap_length (c : UInt8) : 1 ≤ (htmlMap c).length ∧ (htmlMap c).length ≤ 6 := by
  rcases htmlMap_cases c with h | ⟨hlow, hhigh, -⟩
  · simp [h]
  · omega

/-! ### The loop -/

/-- The escapes that fit into `outlen` bytes. -/
def escaped (outlen : ℕ) (input : List UInt8) : List UInt8 := Cut.code htmlMap outlen input

/-- The length of the escape of the character that the loop looks at last. -/
def lastLen (outlen : ℕ) (input : List UInt8) : ℕ := Cut.seenLength htmlMap outlen input

lemma length_escaped_le (outlen : ℕ) (input : List UInt8) : (escaped outlen input).length ≤ outlen :=
  Cut.length_code_le htmlMap outlen input

lemma lastLen_le (outlen : ℕ) (input : List UInt8) : lastLen outlen input ≤ 6 := by
  unfold lastLen Cut.seenLength
  cases Cut.seen htmlMap outlen input with
  | none => exact Nat.zero_le _
  | some c => exact (htmlMap_length c).2

lemma lastLen_pos (outlen : ℕ) {input : List UInt8} (hne : input ≠ []) : 1 ≤ lastLen outlen input := by
  obtain ⟨c, hc⟩ := Cut.exists_seen htmlMap outlen hne
  unfold lastLen Cut.seenLength
  rw [hc]
  exact (htmlMap_length c).1

lemma htmlLoop_spec (off outlen : ℕ) (input : List UInt8) (b : Buf) {j : ℕ} (len : ℕ) (hj : j ≤ outlen) :
    b.Stores (htmlLoop off outlen input b j len).1 (off + j) (escaped (outlen - j) input) ∧
      (htmlLoop off outlen input b j len).2.1 = j + (escaped (outlen - j) input).length ∧
      (htmlLoop off outlen input b j len).2.2 = if input = [] then len else lastLen (outlen - j) input := by
  induction input generalizing b j len with
  | nil => exact ⟨Buf.stores_nil b _, rfl, rfl⟩
  | cons c input ih =>
    have hlen := htmlMap_length c
    unfold htmlLoop
    dsimp only
    rw [if_neg (List.cons_ne_nil c input)]
    by_cases hfit : (htmlMap c).length ≤ outlen - j
    · rw [if_neg (by omega)]
      have hstep := Buf.stores_put b (off + j) (List.ne_nil_of_length_pos hlen.1)
      obtain ⟨hstores, hend, hlast⟩ := ih (b.put (off + j) (htmlMap c)) (htmlMap c).length
        (show j + (htmlMap c).length ≤ outlen by omega)
      rw [← Nat.sub_sub] at hstores hend hlast
      rw [← Nat.add_assoc] at hstores
      have hcode : escaped (outlen - j) (c :: input) =
          htmlMap c ++ escaped (outlen - j - (htmlMap c).length) input := Cut.code_cons_of_le hfit
      have hseen : lastLen (outlen - j) (c :: input) =
          if input = [] then (htmlMap c).length else lastLen (outlen - j - (htmlMap c).length) input :=
        Cut.seenLength_cons_of_le hfit
      refine ⟨?_, ?_, ?_⟩
      · rw [hcode]
        exact hstep.append hstores
      · rw [hend, hcode, List.length_append, Nat.add_assoc]
      · rw [hlast, hseen]
    · rw [if_pos (by omega)]
      have hcode : escaped (outlen - j) (c :: input) = [] := Cut.code_cons_of_lt (by omega)
      have hseen : lastLen (outlen - j) (c :: input) = (htmlMap c).length := Cut.seenLength_cons_of_lt (by omega)
      refine ⟨?_, ?_, ?_⟩
      · rw [hcode]
        exact Buf.stores_nil b _
      · rw [hcode]
        rfl
      · rw [hseen]

/-! ### The function -/

/-- `j` before the terminator is written. -/
def escapedEnd (outlen : ℕ) (input : List UInt8) : ℤ :=
  htmlRollBack outlen (escaped outlen input).length (lastLen outlen input)

lemma escapedEnd_ge (outlen : ℕ) (input : List UInt8) : -6 ≤ escapedEnd outlen input := by
  have hlast := lastLen_le outlen input
  unfold escapedEnd htmlRollBack
  split <;> omega

lemma htmlspecialchars_zero (b : Buf) (off : ℕ) (input : List UInt8) : htmlspecialchars b off 0 input = (b, 0) := by
  cases input with
  | nil => rfl
  | cons c input =>
    unfold htmlspecialchars htmlLoop
    dsimp only
    rw [if_pos (Nat.zero_le _), if_neg (Nat.lt_irrefl 0)]
    rfl

section

variable {outlen : ℕ} (b : Buf) (off : ℕ) (input : List UInt8)

lemma htmlLoop_zero_spec :
    b.Stores (htmlLoop off outlen input b 0 0).1 off (escaped outlen input) ∧
      (htmlLoop off outlen input b 0 0).2.1 = (escaped outlen input).length ∧
      (htmlLoop off outlen input b 0 0).2.2 = lastLen outlen input := by
  obtain ⟨hstores, hend, hlast⟩ := htmlLoop_spec off outlen input b 0 (Nat.zero_le outlen)
  refine ⟨hstores, by simpa using hend, ?_⟩
  rw [hlast, Nat.sub_zero]
  cases input with
  | nil => rfl
  | cons c input => rw [if_neg (List.cons_ne_nil c input)]

lemma htmlspecialchars_pos (houtlen : 0 < outlen) :
    ∃ b₁, b.Stores b₁ off (escaped outlen input) ∧
      htmlspecialchars b off outlen input =
        (b₁.put (off + (escapedEnd outlen input + 1)).toNat [0], escapedEnd outlen input + 1) := by
  obtain ⟨hstores, hend, hlast⟩ := htmlLoop_zero_spec b off input
  refine ⟨_, hstores, ?_⟩
  unfold htmlspecialchars
  dsimp only
  rw [if_pos houtlen, hend, hlast]
  rfl

end

/-- The whole input, with all its escapes. -/
lemma escapedEnd_of_lt {outlen : ℕ} {input : List UInt8} (h : (input.flatMap htmlMap).length < outlen) :
    escapedEnd outlen input = (input.flatMap htmlMap).length := by
  have hcode : escaped outlen input = input.flatMap htmlMap := Cut.code_of_le htmlMap (Nat.le_of_lt h)
  unfold escapedEnd htmlRollBack
  rw [hcode, if_neg (by omega)]

/-- An input that is cut ends at most six bytes before the end of the output. -/
lemma escapedEnd_of_le {outlen : ℕ} {input : List UInt8} (h : outlen ≤ (input.flatMap htmlMap).length) :
    outlen ≤ escapedEnd outlen input + 6 := by
  have hle := length_escaped_le outlen input
  have hlast := lastLen_le outlen input
  unfold escapedEnd htmlRollBack
  split
  · omega
  · rcases Cut.code_cases htmlMap outlen input with ⟨-, hlt⟩ | ⟨-, hall⟩
    · change outlen < (escaped outlen input).length + lastLen outlen input at hlt
      omega
    · change escaped outlen input = _ at hall
      rw [hall] at hle ⊢
      omega

lemma escapedEnd_lt {outlen : ℕ} (houtlen : 0 < outlen) (input : List UInt8) : escapedEnd outlen input < outlen := by
  have hle := length_escaped_le outlen input
  unfold escapedEnd htmlRollBack
  split
  · have hne : input ≠ [] := by
      rintro rfl
      have hnil : (escaped outlen []).length = 0 := rfl
      omega
    have hlast := lastLen_pos outlen hne
    omega
  · omega

lemma escapedEnd_nonneg {outlen : ℕ} (houtlen : 6 ≤ outlen) (input : List UInt8) : 0 ≤ escapedEnd outlen input := by
  have hlast := lastLen_le outlen input
  unfold escapedEnd htmlRollBack
  split <;> omega

lemma htmlspecialchars_ret_pos (b : Buf) (off : ℕ) {outlen : ℕ} (houtlen : 0 < outlen) (input : List UInt8) :
    (htmlspecialchars b off outlen input).2 = escapedEnd outlen input + 1 := by
  obtain ⟨b₁, -, hrun⟩ := htmlspecialchars_pos b off input houtlen
  rw [hrun]

/-- What was taken back is at most six bytes. -/
lemma within_htmlspecialchars_end {b : Buf} {off outlen size n : ℕ} (hin : b.Within size) (input : List UInt8)
    (hend : escapedEnd outlen input = n) (hroom : off + n + 6 ≤ size) :
    (htmlspecialchars b off outlen input).1.Within size := by
  rcases Nat.eq_zero_or_pos outlen with rfl | houtlen
  · rw [htmlspecialchars_zero]
    exact hin
  · obtain ⟨b₁, hstores, hrun⟩ := htmlspecialchars_pos b off input houtlen
    have hlast := lastLen_le outlen input
    rw [hrun, Buf.within_put, hstores.within, List.length_singleton, hend]
    unfold escapedEnd htmlRollBack at hend
    refine ⟨by omega, hin, Or.inr ?_⟩
    split at hend <;> omega

/-- The terminator may come one byte behind the output. -/
lemma within_htmlspecialchars {b : Buf} {off outlen size : ℕ} (hin : b.Within size) (input : List UInt8)
    (hroom : off + outlen < size) : (htmlspecialchars b off outlen input).1.Within size := by
  rcases Nat.eq_zero_or_pos outlen with rfl | houtlen
  · rw [htmlspecialchars_zero]
    exact hin
  · obtain ⟨b₁, hstores, hrun⟩ := htmlspecialchars_pos b off input houtlen
    have hlt := escapedEnd_lt houtlen input
    have hle := length_escaped_le outlen input
    rw [hrun, Buf.within_put, hstores.within, List.length_singleton]
    exact ⟨by omega, hin, Or.inr (by omega)⟩

/-! ### The bounds of the output -/

/-- The writes into the `outlen` bytes of `output`, `j` and the returned length are in their bounds. -/
structure OutputSafe (junk : ℕ → UInt8) (outlen : ℕ) (input : List UInt8) : Prop where
  within : (htmlspecialchars (Buf.fresh junk) 0 outlen input).1.Within outlen
  counter : 0 < outlen →
    0 ≤ htmlRollBack outlen (htmlLoop 0 outlen input (Buf.fresh junk) 0 0).2.1
      (htmlLoop 0 outlen input (Buf.fresh junk) 0 0).2.2
  ret : (htmlspecialchars (Buf.fresh junk) 0 outlen input).2 ≤ outlen
  untouched : outlen = 0 → (htmlspecialchars (Buf.fresh junk) 0 outlen input).1.log = []

/-- There is no output, the escapes leave two bytes of it, or they fill it and the loop has looked last
at a special character whose escape is not longer than the output. -/
def TerminatorFits (outlen : ℕ) (input : List UInt8) : Prop :=
  outlen = 0 ∨ (escaped outlen input).length + 2 ≤ outlen ∨
    ((escaped outlen input).length = outlen ∧ 2 ≤ lastLen outlen input ∧ lastLen outlen input ≤ outlen)

theorem htmlspecialchars_safe_iff (junk : ℕ → UInt8) (outlen : ℕ) (input : List UInt8) :
    OutputSafe junk outlen input ↔ TerminatorFits outlen input := by
  by_cases hzero : outlen = 0
  · subst hzero
    have hrun := htmlspecialchars_zero (Buf.fresh junk) 0 input
    constructor
    · exact fun _ => Or.inl rfl
    · intro _
      constructor
      · rw [hrun]
        exact Buf.within_fresh _ _
      · exact fun h => absurd h (Nat.lt_irrefl 0)
      · rw [hrun]
        exact Int.le_refl _
      · intro _
        rw [hrun]
        rfl
  · have hpos : 0 < outlen := Nat.pos_of_ne_zero hzero
    obtain ⟨b, hstores, hrun⟩ := htmlspecialchars_pos (Buf.fresh junk) 0 input hpos
    obtain ⟨-, hend, hlast⟩ := htmlLoop_zero_spec (Buf.fresh junk) 0 input
    have hle := length_escaped_le outlen input
    have hin : b.Within outlen := (hstores.within outlen).mpr ⟨Buf.within_fresh _ _, Or.inr (by omega)⟩
    have hcounter : escapedEnd outlen input =
        if (escaped outlen input).length + 1 > outlen then ((escaped outlen input).length : ℤ) - lastLen outlen input
        else (escaped outlen input).length := rfl
    -- the terminator is the only write that may lie outside
    have hiff : OutputSafe junk outlen input ↔
        0 ≤ escapedEnd outlen input ∧ (escapedEnd outlen input + 1).toNat + 1 ≤ outlen := by
      constructor
      · rintro ⟨hwithin, hback, -, -⟩
        rw [hrun, Buf.within_put, Nat.cast_zero, Int.zero_add] at hwithin
        have hback := hback hpos
        rw [hend, hlast] at hback
        exact ⟨hback, hwithin.1⟩
      · rintro ⟨hback, hput⟩
        constructor
        · rw [hrun, Buf.within_put, Nat.cast_zero, Int.zero_add]
          exact ⟨hput, hin⟩
        · intro _
          rw [hend, hlast]
          exact hback
        · rw [hrun]
          dsimp only
          omega
        · exact fun h => absurd h hzero
    rw [hiff, hcounter]
    unfold TerminatorFits
    split <;> omega

/-- One letter into two bytes: the terminator goes into the third. -/
theorem terminator_behind_output : ¬OutputSafe (fun _ => 255) 2 (ascii "a") ∧
    (htmlspecialchars (Buf.fresh (fun _ => 255)) 0 2 (ascii "a")).1.log = [(2, 1), (0, 1)] := by
  constructor
  · intro hsafe
    have hin := hsafe.within (2, 1) (List.mem_cons_self ..)
    exact absurd hin (by decide)
  · rfl

/-! ### The text of the output -/

/-- The output is the longest escaped prefix of the input that fits with its terminator. -/
def Untorn (junk : ℕ → UInt8) (outlen : ℕ) (input : List UInt8) : Prop :=
  let r := htmlspecialchars (Buf.fresh junk) 0 outlen input
  ∃ k, IsGreatest {k | k ≤ input.length ∧ ((input.take k).flatMap htmlMap).length + 1 ≤ outlen} k ∧
    r.2 = ((input.take k).flatMap htmlMap).length + 1 ∧
    r.1.read 0 (r.2 - 1).toNat = (input.take k).flatMap htmlMap ∧ r.1.mem (r.2 - 1).toNat = 0

/-- The byte behind the text is NUL already: it was in the output, or it is a NUL of the input that the
loop has stored last and takes back again. -/
def AlreadyEnded (junk : ℕ → UInt8) (outlen : ℕ) (input : List UInt8) : Prop :=
  ((escaped outlen input).length < outlen ∧ junk (escaped outlen input).length = 0) ∨
    ((escaped outlen input).length = outlen ∧ lastLen outlen input = 1 ∧ (escaped outlen input).getLast? = some 0)

lemma untorn_iff (junk : ℕ → UInt8) {n : ℕ} (input : List UInt8) :
    Untorn junk (n + 1) input ↔
      (htmlspecialchars (Buf.fresh junk) 0 (n + 1) input).2 = (escaped n input).length + 1 ∧
        (htmlspecialchars (Buf.fresh junk) 0 (n + 1) input).1.read 0 (escaped n input).length = escaped n input ∧
        (htmlspecialchars (Buf.fresh junk) 0 (n + 1) input).1.mem (escaped n input).length = 0 := by
  have hgreatest := Cut.isGreatest_count htmlMap n input
  have hset : {k | k ≤ input.length ∧ ((input.take k).flatMap htmlMap).length + 1 ≤ n + 1} =
      {k | k ≤ input.length ∧ ((input.take k).flatMap htmlMap).length ≤ n} := by
    ext k
    simp
  unfold Untorn
  dsimp only
  rw [hset]
  constructor
  · rintro ⟨k, hk, hret, hread, hnul⟩
    obtain rfl := hk.unique hgreatest
    rw [hret] at hread hnul
    rw [Int.add_sub_cancel, Int.toNat_natCast] at hread hnul
    exact ⟨hret, hread, hnul⟩
  · rintro ⟨hret, hread, hnul⟩
    refine ⟨_, hgreatest, hret, ?_⟩
    rw [hret, Int.add_sub_cancel, Int.toNat_natCast]
    exact ⟨hread, hnul⟩

/-- Of the escapes only that of the NUL starts with one. -/
lemma getD_htmlMap_eq_zero {c : UInt8} : (htmlMap c).getD 0 0 = 0 ↔ c = 0 := by
  rcases htmlMap_cases c with hself | ⟨hlong, -, hclean, hne⟩
  · rw [hself]
    rfl
  · rw [List.getD_eq_getElem _ _ (by omega)]
    exact iff_of_false (fun hzero => hclean (hzero ▸ List.getElem_mem _)) hne

/-- And only that ends with one. -/
lemma getLast?_htmlMap_eq_zero (front : List UInt8) {c : UInt8} : (front ++ htmlMap c).getLast? = some 0 ↔ c = 0 := by
  rcases htmlMap_cases c with hself | ⟨hlong, -, hclean, hne⟩
  · rw [hself, List.getLast?_concat, Option.some_inj]
  · rw [List.getLast?_append_of_ne_nil _ (List.ne_nil_of_length_pos (by omega))]
    exact iff_of_false (fun hzero => hclean (List.mem_of_getLast? hzero)) hne

/-- An output that is full: the last character is taken back. -/
lemma untorn_full_iff (junk : ℕ → UInt8) {n : ℕ} {input : List UInt8} (hfull : (escaped (n + 1) input).length = n + 1) :
    Untorn junk (n + 1) input ↔ lastLen (n + 1) input = 1 ∧ (escaped (n + 1) input).getLast? = some 0 := by
  have hpos : 0 < n + 1 := Nat.succ_pos n
  obtain ⟨b, hstores, hrun⟩ := htmlspecialchars_pos (Buf.fresh junk) 0 input hpos
  have hend : escapedEnd (n + 1) input = (escaped (n + 1) input).length - lastLen (n + 1) input := if_pos (by omega)
  obtain ⟨c, hcode⟩ := Cut.exists_code_pred (fun c => List.ne_nil_of_length_pos (htmlMap_length c).1) hfull
  have hcode : escaped (n + 1) input = escaped n input ++ htmlMap c := hcode
  have hlen := htmlMap_length c
  rw [hcode] at hstores
  have hfirst := hstores.mem_behind hlen.1
  rw [Nat.zero_add] at hfirst
  rw [untorn_iff, hrun, Nat.cast_zero, Int.zero_add, hend, hcode, List.length_append, getLast?_htmlMap_eq_zero]
  dsimp only
  constructor
  · rintro ⟨hret, -, hnul⟩
    have hlast : lastLen (n + 1) input = (htmlMap c).length := by omega
    rw [Buf.put_mem_of_lt _ _ (by omega), hfirst, getD_htmlMap_eq_zero] at hnul
    subst hnul
    exact ⟨hlast, rfl⟩
  · rintro ⟨hlast, rfl⟩
    have hone : (htmlMap 0).length = 1 := rfl
    have hput : ((((escaped n input).length + (htmlMap 0).length : ℕ) : ℤ) - lastLen (n + 1) input + 1).toNat =
        (escaped n input).length + 1 := by omega
    rw [hput, Buf.put_mem_of_lt _ _ (Nat.lt_succ_self _), Buf.read_put_of_le _ _ (by omega), hfirst, hstores.read_front]
    exact ⟨by omega, rfl, rfl⟩

/-- An output with room behind the text: the terminator leaves out one byte. -/
lemma untorn_short_iff (junk : ℕ → UInt8) {n : ℕ} {input : List UInt8} (hlt : (escaped (n + 1) input).length < n + 1) :
    Untorn junk (n + 1) input ↔ junk (escaped (n + 1) input).length = 0 := by
  have hpos : 0 < n + 1 := Nat.succ_pos n
  obtain ⟨b, hstores, hrun⟩ := htmlspecialchars_pos (Buf.fresh junk) 0 input hpos
  have hcode : escaped n input = escaped (n + 1) input :=
    (Cut.code_of_length_le (Nat.lt_succ_iff.mp hlt) (Nat.le_succ n)).2
  have hend : escapedEnd (n + 1) input = (escaped (n + 1) input).length := if_neg (by omega)
  have hput : ((escaped (n + 1) input).length + 1 : ℤ).toNat = (escaped (n + 1) input).length + 1 := by omega
  have hread : (b.put ((escaped (n + 1) input).length + 1) [0]).read 0 (escaped (n + 1) input).length =
      escaped (n + 1) input := by
    rw [Buf.read_put_of_le _ _ (by omega), hstores.read]
  have hnul : (b.put ((escaped (n + 1) input).length + 1) [0]).mem (escaped (n + 1) input).length =
      junk (escaped (n + 1) input).length := by
    rw [Buf.put_mem_of_lt _ _ (Nat.lt_succ_self _), hstores.mem_of_ge (by omega)]
    rfl
  rw [untorn_iff, hrun, Nat.cast_zero, Int.zero_add, hend, hcode]
  dsimp only
  rw [hput, hread, hnul]
  simp

theorem htmlspecialchars_untorn_iff (junk : ℕ → UInt8) {outlen : ℕ} (houtlen : 1 ≤ outlen) (input : List UInt8) :
    Untorn junk outlen input ↔ AlreadyEnded junk outlen input := by
  obtain ⟨n, rfl⟩ : ∃ n, outlen = n + 1 := ⟨outlen - 1, by omega⟩
  have hle := length_escaped_le (n + 1) input
  unfold AlreadyEnded
  by_cases hfull : (escaped (n + 1) input).length = n + 1
  · rw [untorn_full_iff junk hfull]
    simp only [hfull, Nat.lt_irrefl, false_and, false_or, true_and]
  · have hlt : (escaped (n + 1) input).length < n + 1 := by omega
    rw [untorn_short_iff junk hlt]
    simp only [hlt, true_and, hfull, false_and, or_false]

theorem untorn_zeroed : 1 ≤ 16 ∧ Untorn (fun _ => 0) 16 (ascii "a<b") := by
  refine ⟨by decide, (htmlspecialchars_untorn_iff (fun _ => 0) (by decide) (ascii "a<b")).mpr ?_⟩
  unfold AlreadyEnded
  decide

/-- One letter into an output that is not zeroed: the byte behind the letter stays what it was. -/
theorem unterminated_letter : ¬Untorn (fun _ => 255) 16 (ascii "a") ∧
    (htmlspecialchars (Buf.fresh (fun _ => 255)) 0 16 (ascii "a")).2 = 2 ∧
    (htmlspecialchars (Buf.fresh (fun _ => 255)) 0 16 (ascii "a")).1.read 0 3 = [97, 255, 0] := by
  refine ⟨?_, rfl, rfl⟩
  rw [untorn_iff]
  rintro ⟨-, -, hnul⟩
  exact absurd hnul (by decide)

end GNUWeebBot.Proofs
