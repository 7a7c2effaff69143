import GNUWeebBot.Model.AdminText
import Mathlib.Data.List.Find
import Mathlib.Data.List.TakeWhile

/-!
# The text of a command

The pointers of the entry of `003_admin` stay in the text and in `yx`, and what they read is what
`parseCommand` has.
-/

namespace GNUWeebBot.Proofs

open Fill

/-! ### Reads -/

/-- The bytes up to white space. -/
def wordOf (text : List UInt8) : List UInt8 := text.takeWhile (fun c => !isWs c)

lemma wordOf_cons {c : UInt8} (hc : isWs c = false) (text : List UInt8) : wordOf (c :: text) = c :: wordOf text := by
  simp [wordOf, hc]

lemma wordOf_cons_ws {c : UInt8} (hc : isWs c = true) (text : List UInt8) : wordOf (c :: text) = [] := by
  simp [wordOf, hc]

section Reads

variable {σ : Type} {text : List UInt8} {i : ℕ}

lemma byteAt_of_le (hi : i ≤ text.length) (s : σ) : byteAt text i s = .next (text.getD i 0) s := by
  rw [byteAt, if_pos hi]
  rfl

/-- The byte at a pointer and the text behind it, or the terminator. -/
lemma read_cases (hi : i ≤ text.length) :
    (i = text.length ∧ text.drop i = [] ∧ text.getD i 0 = 0) ∨
      (i < text.length ∧ text.drop i = text.getD i 0 :: text.drop (i + 1)) := by
  rcases Nat.eq_or_lt_of_le hi with heq | hlt
  · exact .inl ⟨heq, List.drop_of_length_le (by omega), List.getD_eq_default _ _ (by omega)⟩
  · rw [List.getD_eq_getElem _ _ hlt]
    exact .inr ⟨hlt, List.drop_eq_getElem_cons hlt⟩

lemma getD_ne_zero (hzero : 0 ∉ text) (hi : i < text.length) : text.getD i 0 ≠ 0 := by
  rw [List.getD_eq_getElem _ _ hi]
  exact fun h => hzero (h ▸ List.getElem_mem hi)

lemma skipWsAt_spec {left : ℕ} (hi : i ≤ text.length) (hleft : text.length - i < left) (s : σ) :
    ∃ tx, skipWsAt text left i s = .next tx s ∧ text.drop tx = (text.drop i).dropWhile isWs := by
  induction left generalizing i with
  | zero => omega
  | succ left ih =>
    rw [skipWsAt, bind_of_next (byteAt_of_le hi s)]
    rcases read_cases hi with ⟨-, hdrop, hc⟩ | ⟨hlt, hdrop⟩
    · rw [hc, if_neg (by decide)]
      exact ⟨i, rfl, by rw [hdrop]; rfl⟩
    · cases hws : isWs (text.getD i 0) with
      | true =>
        obtain ⟨tx, hrun, htx⟩ := ih (show i + 1 ≤ text.length from hlt) (by omega)
        refine ⟨tx, by rw [if_pos rfl, hrun], ?_⟩
        rw [htx, hdrop, List.dropWhile_cons_of_pos hws]
      | false =>
        refine ⟨i, by rw [if_neg Bool.false_ne_true]; rfl, ?_⟩
        rw [hdrop, List.dropWhile_cons_of_neg (by rw [hws]; exact Bool.false_ne_true)]

end Reads

/-! ### The copy of a word -/

section Copy

variable {text front : List UInt8} {src i size : ℕ} {dest : Buf}

/-- The byte at the pointer ends the word, or it is copied. -/
lemma copyByte_cases (hzero : 0 ∉ text) (hi : src + i ≤ text.length) (dest : Buf) :
    (wordOf (text.drop (src + i)) = [] ∧ copyByte text src i dest = .next true (dest.put i [0])) ∨
      ∃ c, src + i < text.length ∧ wordOf (text.drop (src + i)) = c :: wordOf (text.drop (src + (i + 1))) ∧
        copyByte text src i dest = .next false (dest.put i [toLower c]) := by
  rw [copyByte, bind_of_next (byteAt_of_le hi dest)]
  rcases read_cases hi with ⟨-, hdrop, hc⟩ | ⟨hlt, hdrop⟩
  · left
    rw [hdrop, if_pos (Or.inl hc)]
    exact ⟨rfl, rfl⟩
  · have hne := getD_ne_zero hzero hlt
    cases hws : isWs (text.getD (src + i) 0) with
    | true =>
      left
      rw [hdrop, wordOf_cons_ws hws, if_pos (Or.inr rfl)]
      exact ⟨rfl, rfl⟩
    | false =>
      right
      refine ⟨text.getD (src + i) 0, hlt, ?_, ?_⟩
      · rw [hdrop, wordOf_cons hws, Nat.add_assoc]
      · rw [if_neg (by rw [not_or]; exact ⟨hne, Bool.false_ne_true⟩)]
        rfl

/-- A word that fits is copied in lower case, with a terminator, and no other is written further. -/
lemma strtolowerCpLoop_spec (hzero : 0 ∉ text) {left : ℕ} (hi : src + front.length ≤ text.length)
    (hdest : dest.Holds front) (hin : dest.Within size) (hsize : front.length + left < size) :
    ∃ dest', strtolowerCpLoop text src left front.length dest =
        .next (decide ((wordOf (text.drop (src + front.length))).length ≤ left)) dest' ∧ dest'.Within size ∧
      ((wordOf (text.drop (src + front.length))).length ≤ left →
        dest'.Holds (front ++ ((wordOf (text.drop (src + front.length))).map toLower ++ [0]))) := by
  induction left generalizing front dest with
  | zero =>
    rw [strtolowerCpLoop]
    rcases copyByte_cases hzero hi dest with ⟨hword, hrun⟩ | ⟨c, hlt, hword, hrun⟩
    · rw [hrun, hword]
      refine ⟨_, rfl, ?_, fun _ => hdest.put [0]⟩
      rw [Buf.within_put]
      exact ⟨hsize, hin⟩
    · rw [hrun, hword]
      refine ⟨_, rfl, ?_, fun h => absurd h (Nat.not_succ_le_zero _)⟩
      rw [Buf.within_put]
      exact ⟨hsize, hin⟩
  | succ left ih =>
    rw [strtolowerCpLoop]
    rcases copyByte_cases hzero hi dest with ⟨hword, hrun⟩ | ⟨c, hlt, hword, hrun⟩
    · rw [bind_of_next hrun, hword]
      refine ⟨_, rfl, ?_, fun _ => hdest.put [0]⟩
      rw [Buf.within_put]
      exact ⟨by simp only [List.length_singleton]; omega, hin⟩
    · rw [bind_of_next hrun, if_neg Bool.false_ne_true, hword]
      have hlen : (front ++ [toLower c]).length = front.length + 1 := by rw [List.length_append, List.length_singleton]
      have hnext := hdest.put [toLower c]
      have hput : (dest.put front.length [toLower c]).Within size := by
        rw [Buf.within_put]
        exact ⟨by simp only [List.length_singleton]; omega, hin⟩
      obtain ⟨dest', hloop, hin', hholds⟩ := ih (by rw [hlen]; exact hlt) hnext hput (by rw [hlen]; omega)
      rw [hlen] at hloop hholds
      refine ⟨dest', ?_, hin', fun hle => ?_⟩
      · rw [hloop, List.length_cons]
        simp only [Nat.succ_le_succ_iff]
      · rw [List.length_cons] at hle
        have hall := hholds (Nat.le_of_succ_le_succ hle)
        rw [List.append_assoc] at hall
        exact hall

/-- `yx` has room for eight bytes and a terminator. -/
lemma strtolowerCpAt_spec (hzero : 0 ∉ text) (hsrc : src ≤ text.length) (hin : dest.Within 10) :
    ∃ dest', strtolowerCpAt text src 9 dest = .next (decide ((wordOf (text.drop src)).length ≤ 8)) dest' ∧
      dest'.Within 10 ∧
      ((wordOf (text.drop src)).length ≤ 8 → dest'.Holds ((wordOf (text.drop src)).map toLower ++ [0])) :=
  strtolowerCpLoop_spec hzero (show src + 0 ≤ text.length from hsrc) dest.holds_nil hin (show 0 + 8 < 10 by decide)

lemma strtolowerCp_eq (text : List UInt8) :
    strtolowerCp text 9 = if (wordOf text).length ≤ 8 then some ((wordOf text).map toLower) else none := by
  have hcopy : strtolowerCp text 9 = if (wordOf text).length ≥ 9 then none else some ((wordOf text).map toLower) := rfl
  rw [hcopy]
  split <;> split <;> first | rfl | omega

/-- `strncmp` sees a word that starts with the keyword. -/
lemma startsWith_eq {keyword yx : List UInt8} (hdest : dest.Holds (yx ++ [0])) (hkeyword : 0 ∉ keyword) :
    startsWith keyword dest = keyword.isPrefixOf yx := by
  rw [Bool.eq_iff_iff, List.isPrefixOf_iff_prefix, startsWith, beq_iff_eq]
  have hread : ∀ n ≤ yx.length, dest.read 0 n = yx.take n := by
    intro n hn
    have hall := (Buf.holds_append_iff.mp hdest).1
    rw [Buf.Holds, ← Nat.add_sub_cancel' hn, Buf.read_add] at hall
    rw [← hall, List.take_left' (Buf.read_length _ _ _)]
  rcases Nat.lt_or_ge yx.length keyword.length with hlong | hshort
  · -- the terminator of `yx` is no byte of the keyword
    constructor
    · intro hmatch
      have hnul : dest.mem (0 + yx.length) ∈ dest.read 0 keyword.length := by
        rw [Buf.read, List.mem_map]
        exact ⟨yx.length, List.mem_range.mpr hlong, rfl⟩
      have hend := (Buf.holds_append_iff.mp hdest).2
      rw [List.length_singleton, Buf.read_succ, List.cons.injEq] at hend
      rw [hmatch, Nat.zero_add, hend.1] at hnul
      exact absurd hnul hkeyword
    · intro hstart
      exact absurd hstart.length_le (Nat.not_le_of_lt hlong)
  · rw [hread _ hshort, List.prefix_iff_eq_take]
    exact eq_comm

end Copy

/-! ### The entry -/

section Entry

variable {text : List UInt8} {yx : Buf}

lemma zero_not_mem_keyword : ∀ k ∈ keywords, 0 ∉ ascii k.1 := by decide

lemma find_startsWith {word : List UInt8} (hyx : yx.Holds (word ++ [0])) :
    keywords.find? (fun k => startsWith (ascii k.1) yx) = keywords.find? (fun k => (ascii k.1).isPrefixOf word) :=
  List.find?_congr (fun k hk => startsWith_eq hyx (zero_not_mem_keyword k hk))

lemma length_wordOf_le (text : List UInt8) : (wordOf text).length ≤ text.length :=
  (List.takeWhile_prefix _).length_le

/-- A keyword that the word starts with ends before the text does. -/
lemma length_le_of_isPrefixOf {keyword : List UInt8} (h : keyword.isPrefixOf ((wordOf text).map toLower) = true) :
    keyword.length ≤ text.length := by
  have hstart := (List.isPrefixOf_iff_prefix.mp h).length_le
  have hword := length_wordOf_le text
  rw [List.length_map] at hstart
  omega

/-- A keyword that is found is not longer than what is read. -/
lemma length_le_of_find {keyword : String} {cmd : ModCmd}
    (h : keywords.find? (fun k => (ascii k.1).isPrefixOf ((wordOf text).map toLower)) = some (keyword, cmd)) :
    keyword.length ≤ text.length := by
  have hstart := List.find?_some h
  have hle := length_le_of_isPrefixOf hstart
  rwa [length_ascii] at hle

/-- There is no byte left, or white space. -/
def wordEnds (rest : List UInt8) : Bool :=
  match rest with
  | [] => true
  | c :: _ => isWs c

lemma readEnd_eq (hzero : 0 ∉ text) {i : ℕ} (hi : i ≤ text.length) :
    (!(decide (text.getD i 0 ≠ 0 ∧ (!isWs (text.getD i 0)) = true))) = wordEnds (text.drop i) := by
  rcases read_cases hi with ⟨-, hdrop, hc⟩ | ⟨hlt, hdrop⟩
  · rw [hdrop, hc]
    rfl
  · have hne := getD_ne_zero hzero hlt
    rw [hdrop]
    change _ = isWs (text.getD i 0)
    generalize text.getD i 0 = c at hne
    cases hws : isWs c <;> simp [hne]

lemma isAnAdminMention_of_ne {c : UInt8} (hc : c ≠ 64) (tx : List UInt8) : isAnAdminMention (c :: tx) = false := by
  unfold isAnAdminMention
  split
  · rename_i heq
    exact absurd (List.cons.inj heq).1 hc
  · rfl

/-- What follows `admin` or `admins`, the `s` in lower case. -/
def afterAdmin (tx : List UInt8) : List UInt8 := if (tx.drop 5).head? = some 115 then tx.drop 6 else tx.drop 5

/-- The pointer behind `admin` or `admins`. -/
lemma drop_afterAdmin {c : UInt8} {tx : List UInt8} (hfive : 5 ≤ tx.length) :
    (if (c :: tx).getD 6 0 = 115 then 7 else 6) ≤ (c :: tx).length ∧
      (c :: tx).drop (if (c :: tx).getD 6 0 = 115 then 7 else 6) = afterAdmin tx := by
  have hsix : 6 ≤ (c :: tx).length := Nat.succ_le_succ hfive
  have hskip : (c :: tx).drop 6 = tx.drop 5 := rfl
  unfold afterAdmin
  rcases read_cases hsix with ⟨-, hdrop, hend⟩ | ⟨hlt, hdrop⟩
  · rw [hskip] at hdrop
    rw [hend, hdrop, if_neg (by decide), if_neg (by decide)]
    exact ⟨hsix, hdrop⟩
  · rw [hskip] at hdrop
    rw [hdrop, List.head?_cons]
    generalize (c :: tx).getD 6 0 = d at hdrop
    by_cases hs : d = 115
    · rw [if_pos hs, if_pos (congrArg some hs)]
      exact ⟨hlt, rfl⟩
    · rw [if_neg hs, if_neg (fun h => hs (Option.some.inj h))]
      exact ⟨hsix, hdrop⟩

lemma isAnAdminMention_at (tx : List UInt8) :
    isAnAdminMention (64 :: tx) =
      (decide ((wordOf tx).length ≤ 8) && (ascii "admin").isPrefixOf ((wordOf tx).map toLower) &&
        wordEnds (afterAdmin tx)) := by
  have hafter : afterAdmin tx = if (tx.drop 5).head? = some 115 then (tx.drop 5).drop 1 else tx.drop 5 := by
    rw [List.drop_drop]
    rfl
  have hmention : isAnAdminMention (64 :: tx) =
      (strtolowerCp tx 9).elim false fun yx => if !(ascii "admin").isPrefixOf yx then false
        else wordEnds (if (tx.drop 5).head? = some 115 then (tx.drop 5).drop 1 else tx.drop 5) := by
    rw [isAnAdminMention]
    cases strtolowerCp tx 9 with
    | none => rfl
    | some yx => rfl
  rw [hmention, hafter, strtolowerCp_eq]
  by_cases hshort : (wordOf tx).length ≤ 8
  · rw [if_pos hshort, decide_eq_true hshort, Bool.true_and]
    cases hstart : (ascii "admin").isPrefixOf ((wordOf tx).map toLower) <;> simp [hstart]
  · rw [if_neg hshort, decide_eq_false hshort, Bool.false_and, Bool.false_and, Option.elim_none]

/-- The mention is recognised without a read behind the text. -/
lemma isAnAdminMentionAt_spec (hzero : 0 ∉ text) (hin : yx.Within 10) :
    ∃ yx', isAnAdminMentionAt text 0 yx = .next (isAnAdminMention text) yx' ∧ yx'.Within 10 := by
  have hread := byteAt_of_le (Nat.zero_le text.length) yx
  cases text with
  | nil => exact ⟨yx, rfl, hin⟩
  | cons c tx =>
    change byteAt (c :: tx) 0 yx = .next c yx at hread
    rw [isAnAdminMentionAt, bind_of_next hread]
    by_cases hat : c = 64
    · subst hat
      obtain ⟨yx', hrun, hin', hholds⟩ := strtolowerCpAt_spec hzero (show 0 + 1 ≤ (64 :: tx).length by simp) hin
      change strtolowerCpAt _ _ _ _ = .next (decide ((wordOf tx).length ≤ 8)) yx' at hrun
      change (wordOf tx).length ≤ 8 → yx'.Holds ((wordOf tx).map toLower ++ [0]) at hholds
      refine ⟨yx', ?_, hin'⟩
      rw [if_neg (not_not_intro rfl), bind_of_next hrun, isAnAdminMention_at]
      by_cases hshort : (wordOf tx).length ≤ 8
      · rw [decide_eq_true hshort, if_neg (by decide), bind_of_next (show read id yx' = .next yx' yx' from rfl),
          startsWith_eq (hholds hshort) (by decide)]
        cases hstart : (ascii "admin").isPrefixOf ((wordOf tx).map toLower) with
        | false => rfl
        | true =>
          have hfive : 5 ≤ tx.length := length_le_of_isPrefixOf hstart
          have hsix : 6 ≤ (64 :: tx).length := Nat.succ_le_succ hfive
          change (byteAt (64 :: tx) 6 >>= fun c =>
            byteAt (64 :: tx) (if c = 115 then 7 else 6) >>= fun c => pure (!(decide (c ≠ 0 ∧ (!isWs c) = true)))) yx' = _
          obtain ⟨hptr, hdrop⟩ := drop_afterAdmin (c := 64) hfive
          rw [bind_of_next (byteAt_of_le hsix yx'), bind_of_next (byteAt_of_le hptr yx'), readEnd_eq hzero hptr, hdrop]
          rfl
      · rw [decide_eq_false hshort]
        rfl
    · refine ⟨yx, ?_, hin⟩
      rw [if_pos hat, isAnAdminMention_of_ne hat]
      rfl

/-- Behind the keyword: the end of the text, a reason behind white space, or no command. -/
lemma afterKeyword_spec (hzero : 0 ∉ text) {i : ℕ} (hi : i ≤ text.length) (cmd : ModCmd) :
    ∃ r, (do
        let c ← byteAt text i
        if c = 0 then pure (some (cmd, none, false))
        else if !isWs c then pure none
        else
          let reason ← skipWsAt text (text.length + 1 - i) i
          pure (some (cmd, some reason, false)) : Fill TextFault Buf (Option (ModCmd × Option ℕ × Bool))) yx = .next r yx ∧
      (match text.drop i with
        | [] => some (cmd, none, false)
        | c :: after => if !isWs c then none else some (cmd, some ((c :: after).dropWhile isWs), false)) =
        r.map (fun p => (p.1, p.2.1.map text.drop, p.2.2)) := by
  rw [bind_of_next (byteAt_of_le hi yx)]
  rcases read_cases hi with ⟨-, hdrop, hend⟩ | ⟨hlt, hdrop⟩
  · rw [hend, hdrop, if_pos rfl]
    exact ⟨_, rfl, rfl⟩
  · obtain ⟨reason, hreason, hrest⟩ := skipWsAt_spec hi (show text.length - i < text.length + 1 - i by omega) yx
    rw [if_neg (getD_ne_zero hzero hlt)]
    rw [hdrop] at hrest ⊢
    dsimp only
    cases hws : isWs (text.getD i 0) with
    | false => exact ⟨none, rfl, rfl⟩
    | true =>
      rw [if_neg (by decide), if_neg (by decide), bind_of_next hreason, ← hrest]
      exact ⟨_, rfl, rfl⟩

/-- The entry reads the text as `parseCommand` does. -/
theorem parseCommandAt_spec (hzero : 0 ∉ text) (hin : yx.Within 10) :
    ∃ r yx', parseCommandAt text yx = .next r yx' ∧ yx'.Within 10 ∧
      parseCommand text = r.map (fun p => (p.1, p.2.1.map text.drop, p.2.2)) := by
  have hread := byteAt_of_le (Nat.zero_le text.length) yx
  cases text with
  | nil => exact ⟨none, yx, rfl, hin, rfl⟩
  | cons c tx =>
    change byteAt (c :: tx) 0 yx = .next c yx at hread
    unfold parseCommandAt parseCommand
    rw [bind_of_next hread]
    by_cases hmark : c ≠ 33 ∧ c ≠ 47 ∧ c ≠ 46 ∧ c ≠ 126
    · obtain ⟨yx', hrun, hin'⟩ := isAnAdminMentionAt_spec hzero hin
      dsimp only
      rw [if_pos hmark, if_pos hmark, bind_of_next hrun]
      refine ⟨_, yx', rfl, hin', ?_⟩
      cases isAnAdminMention (c :: tx) <;> rfl
    · obtain ⟨yx', hrun, hin', hholds⟩ := strtolowerCpAt_spec hzero (show 1 ≤ (c :: tx).length by simp) hin
      change strtolowerCpAt _ _ _ _ = .next (decide ((wordOf tx).length ≤ 8)) yx' at hrun
      change (wordOf tx).length ≤ 8 → yx'.Holds ((wordOf tx).map toLower ++ [0]) at hholds
      dsimp only
      rw [if_neg hmark, if_neg hmark, bind_of_next hrun, strtolowerCp_eq]
      by_cases hshort : (wordOf tx).length ≤ 8
      · rw [decide_eq_true hshort, if_neg (by decide), bind_of_next (show read id yx' = .next yx' yx' from rfl),
          find_startsWith (hholds hshort), if_pos hshort]
        dsimp only
        cases hfind : keywords.find? (fun k => (ascii k.1).isPrefixOf ((wordOf tx).map toLower)) with
        | none => exact ⟨none, yx', rfl, hin', rfl⟩
        | some k =>
          obtain ⟨keyword, cmd⟩ := k
          have hlen : keyword.length ≤ tx.length := length_le_of_find hfind
          have hptr : 1 + keyword.length ≤ (c :: tx).length := by
            rw [List.length_cons]
            omega
          have hskip : (c :: tx).drop (1 + keyword.length) = tx.drop keyword.length := by
            rw [Nat.add_comm]
            rfl
          obtain ⟨r, hr, hmatch⟩ := @afterKeyword_spec _ yx' hzero _ hptr cmd
          dsimp only
          rw [hr, ← hskip]
          exact ⟨r, yx', rfl, hin', hmatch⟩
      · rw [decide_eq_false hshort, if_neg hshort]
        exact ⟨none, yx', rfl, hin', rfl⟩

end Entry

end GNUWeebBot.Proofs
