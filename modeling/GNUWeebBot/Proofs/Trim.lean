import Mathlib.Data.List.DropRight
import GNUWeebBot.Lib.Words
import GNUWeebBot.Model.Json
import GNUWeebBot.Model.Strings

/-!
# What the trimming functions return

`trim` writes the terminator when it has moved the tail, `trim_cpy` when it has moved the
head. So `trim` always returns the string without its padding, and `trim_cpy` leaves the
padding at the end where there is none at the start.
-/

namespace GNUWeebBot.Proofs

/-- The string without its longest leading and its longest trailing run. -/
def trimmed (s : List UInt8) : List UInt8 := (s.dropWhile isTrimmed).rdropWhile isTrimmed

def StartsPadded (s : List UInt8) : Prop := s.head?.any isTrimmed = true

def EndsPadded (s : List UInt8) : Prop := s.getLast?.any isTrimmed = true

instance (s : List UInt8) : Decidable (StartsPadded s) := inferInstanceAs (Decidable (_ = _))

instance (s : List UInt8) : Decidable (EndsPadded s) := inferInstanceAs (Decidable (_ = _))

variable {b : Buf} {str ptr : ℕ} {s : List UInt8}

/-! ### The loops -/

lemma skipHead_spec (b : Buf) (head len : ℕ) (moveH : Bool) :
    skipHead b head len moveH =
      (head + ((b.read head len).takeWhile isTrimmed).length, ((b.read head len).dropWhile isTrimmed).length,
        moveH || (b.read head len).head?.any isTrimmed) := by
  induction len generalizing head moveH with
  | zero => simp [skipHead]
  | succ len ih =>
    rw [Buf.read_succ, skipHead]
    cases htrim : isTrimmed (b.mem head) with
    | true =>
      rw [if_pos rfl, ih, List.takeWhile_cons_of_pos htrim, List.dropWhile_cons_of_pos htrim]
      simp [htrim, Nat.add_assoc, Nat.add_comm]
    | false =>
      have hneg : ¬isTrimmed (b.mem head) = true := by simp [htrim]
      rw [if_neg (by decide), List.takeWhile_cons_of_neg hneg, List.dropWhile_cons_of_neg hneg]
      simp [htrim]

lemma skipTail_spec (b : Buf) (off tail len : ℕ) (htail : 0 < len → tail + 1 = off + len) (moveT : Bool) :
    ∃ tail', skipTail b tail len moveT =
        (tail', ((b.read off len).rdropWhile isTrimmed).length,
          moveT || (b.read off len).getLast?.any isTrimmed) ∧
      (0 < ((b.read off len).rdropWhile isTrimmed).length →
        tail' + 1 = off + ((b.read off len).rdropWhile isTrimmed).length) := by
  induction len generalizing tail moveT with
  | zero => exact ⟨tail, by simp [skipTail], fun h => absurd h (Nat.lt_irrefl 0)⟩
  | succ len ih =>
    have hat : tail = off + len := by
      have := htail (Nat.succ_pos len)
      omega
    rw [Buf.read_concat, skipTail, hat, List.getLast?_concat]
    cases htrim : isTrimmed (b.mem (off + len)) with
    | true =>
      obtain ⟨tail', hrun, hend⟩ := ih (off + len - 1) (by omega) true
      rw [if_pos rfl, List.rdropWhile_concat_pos _ _ _ htrim]
      refine ⟨tail', ?_, hend⟩
      rw [hrun]
      simp [htrim]
    | false =>
      have hneg : ¬isTrimmed (b.mem (off + len)) = true := by simp [htrim]
      rw [if_neg (by decide), List.rdropWhile_concat_neg _ _ _ hneg]
      refine ⟨off + len, by simp [htrim], fun _ => ?_⟩
      simp [Nat.add_assoc]

/-! ### The functions on a string -/

lemma trimmed_eq_nil_iff : trimmed s = [] ↔ s.dropWhile isTrimmed = [] := by
  unfold trimmed
  constructor
  · intro h
    cases hdrop : s.dropWhile isTrimmed with
    | nil => rfl
    | cons c rest =>
      rw [List.rdropWhile_eq_nil_iff, hdrop] at h
      have hc := Words.head?_dropWhile isTrimmed s c (by rw [hdrop]; rfl)
      exact absurd (h c List.mem_cons_self) (by simp [hc])
  · intro h
    rw [h]
    rfl

lemma rdropWhile_of_not (h : ¬EndsPadded s) : s.rdropWhile isTrimmed = s := by
  rw [List.rdropWhile_eq_self_iff]
  intro hne htrim
  apply h
  rw [EndsPadded, List.getLast?_eq_some_getLast hne]
  exact htrim

lemma dropWhile_of_not (h : ¬StartsPadded s) : s.dropWhile isTrimmed = s := by
  cases s with
  | nil => rfl
  | cons c rest => exact List.dropWhile_cons_of_neg h

/-- The string behind its padding at the start. -/
lemma read_behind (hread : b.read str s.length = s) :
    s.length = (s.takeWhile isTrimmed).length + (s.dropWhile isTrimmed).length ∧
      b.read (str + (s.takeWhile isTrimmed).length) (s.dropWhile isTrimmed).length = s.dropWhile isTrimmed := by
  have hsplit : s.takeWhile isTrimmed ++ s.dropWhile isTrimmed = s := List.takeWhile_append_dropWhile
  have hlen := congrArg List.length hsplit
  rw [List.length_append] at hlen
  refine ⟨hlen.symm, ?_⟩
  rw [← hlen, Buf.read_add] at hread
  exact (List.append_inj (hread.trans hsplit.symm) (Buf.read_length _ _ _)).2

/-- The loops of both functions. -/
lemma loops_spec (hread : b.read str s.length = s) :
    skipHead b str s.length false =
        (str + (s.takeWhile isTrimmed).length, (s.dropWhile isTrimmed).length, s.head?.any isTrimmed) ∧
      ∃ tail, skipTail b (str + s.length - 1) (s.dropWhile isTrimmed).length false =
          (tail, (trimmed s).length, (s.dropWhile isTrimmed).getLast?.any isTrimmed) ∧
        (0 < (trimmed s).length → tail + 1 = str + (s.takeWhile isTrimmed).length + (trimmed s).length) := by
  obtain ⟨hlen, hrest⟩ := read_behind hread
  obtain ⟨tail, hrun, hend⟩ := skipTail_spec b (str + (s.takeWhile isTrimmed).length) (str + s.length - 1)
    (s.dropWhile isTrimmed).length (by omega) false
  rw [hrest, Bool.false_or] at hrun
  rw [hrest] at hend
  refine ⟨?_, tail, hrun, hend⟩
  rw [skipHead_spec, hread, Bool.false_or]

lemma trimLen_eq (hread : b.read str s.length = s) :
    trimLen b str s.length =
      ⟨if trimmed s ≠ [] ∧ EndsPadded (s.dropWhile isTrimmed) then
          b.put (str + (s.takeWhile isTrimmed).length + (trimmed s).length) [0] else b,
        str + (s.takeWhile isTrimmed).length, (trimmed s).length⟩ := by
  obtain ⟨hhead, tail, htail, hend⟩ := loops_spec hread
  have hpos : 0 < (trimmed s).length ↔ trimmed s ≠ [] := List.length_pos_iff
  unfold trimLen
  simp only [hhead, htail, TrimRet.mk.injEq, and_true]
  by_cases hmoved : trimmed s ≠ [] ∧ EndsPadded (s.dropWhile isTrimmed)
  · have hlt := hpos.mpr hmoved.1
    have hcond : (decide ((trimmed s).length > 0) && (s.dropWhile isTrimmed).getLast?.any isTrimmed) = true := by
      rw [Bool.and_eq_true]
      exact ⟨decide_eq_true hlt, hmoved.2⟩
    rw [if_pos hmoved, if_pos hcond, hend hlt]
  · have hcond : ¬(decide ((trimmed s).length > 0) && (s.dropWhile isTrimmed).getLast?.any isTrimmed) = true := by
      rw [Bool.and_eq_true, decide_eq_true_iff]
      exact fun h => hmoved ⟨hpos.mp h.1, h.2⟩
    rw [if_neg hmoved, if_neg hcond]

lemma trimLenCpy_of_padded (hread : b.read str s.length = s) (hpadded : StartsPadded s) :
    trimLenCpy b str s.length =
      ⟨(if (trimmed s).length > 0 then
          b.put str (b.read (str + (s.takeWhile isTrimmed).length) (trimmed s).length) else b).put
            (str + (trimmed s).length) [0], str, (trimmed s).length⟩ := by
  obtain ⟨hhead, tail, htail, -⟩ := loops_spec hread
  unfold trimLenCpy
  simp only [hhead, htail]
  exact if_pos hpadded

lemma trimLenCpy_of_not (hread : b.read str s.length = s) (hpadded : ¬StartsPadded s) :
    trimLenCpy b str s.length = ⟨b, str, (trimmed s).length⟩ := by
  obtain ⟨hhead, tail, htail, -⟩ := loops_spec hread
  unfold trimLenCpy
  simp only [hhead, htail]
  exact if_neg hpadded

/-! ### The strings they return -/

lemma zero_not_mem_trimmed (hzero : 0 ∉ s) : 0 ∉ trimmed s := by
  intro h
  exact hzero ((List.dropWhile_sublist _).mem ((List.rdropWhile_prefix _ _).sublist.mem h))

lemma not_startsPadded_trimmed (s : List UInt8) : ¬StartsPadded (trimmed s) := by
  unfold StartsPadded
  cases htrim : trimmed s with
  | nil => simp
  | cons c rest =>
    obtain ⟨run, hrun⟩ := List.rdropWhile_prefix isTrimmed (s.dropWhile isTrimmed)
    change trimmed s ++ run = _ at hrun
    have hc := Words.head?_dropWhile isTrimmed s c (by rw [← hrun, htrim]; rfl)
    simp [hc]

lemma not_endsPadded_trimmed (s : List UInt8) : ¬EndsPadded (trimmed s) := by
  unfold EndsPadded
  by_cases hnil : trimmed s = []
  · simp [hnil]
  · rw [List.getLast?_eq_some_getLast hnil]
    exact List.rdropWhile_last_not isTrimmed (s.dropWhile isTrimmed) hnil

lemma trimmed_of_not (hstarts : ¬StartsPadded s) (hends : ¬EndsPadded s) : trimmed s = s := by
  rw [trimmed, dropWhile_of_not hstarts, rdropWhile_of_not hends]

lemma read_trimmed (h : b.StringAt str s) :
    b.read (str + (s.takeWhile isTrimmed).length) (trimmed s).length = trimmed s := by
  obtain ⟨run, hrun⟩ := List.rdropWhile_prefix isTrimmed (s.dropWhile isTrimmed)
  change trimmed s ++ run = _ at hrun
  have hrest := (read_behind h.read).2
  rw [← hrun, List.length_append, Buf.read_add] at hrest
  exact (List.append_inj hrest (Buf.read_length _ _ _)).1

lemma stringAt_trimLen (h : b.StringAt str s) :
    (trimLen b str s.length).buf.StringAt (trimLen b str s.length).ptr (trimmed s) := by
  rw [trimLen_eq h.read]
  constructor
  · dsimp only
    split
    · rw [Buf.read_put_of_le _ _ (Nat.le_refl _), read_trimmed h]
    · exact read_trimmed h
  · dsimp only
    split
    · exact Buf.put_cons_mem _ _ _ _
    · rename_i hnot
      have hfull : trimmed s = s.dropWhile isTrimmed := by
        by_cases hnil : trimmed s = []
        · rw [hnil, trimmed_eq_nil_iff.mp hnil]
        · exact rdropWhile_of_not (fun hends => hnot ⟨hnil, hends⟩)
      have hlen := (read_behind h.read).1
      rw [hfull, Nat.add_assoc, ← hlen]
      exact h.nul
  · exact zero_not_mem_trimmed h.clean

lemma stringAt_trimLenCpy (h : b.StringAt str s) (hpadded : StartsPadded s) :
    (trimLenCpy b str s.length).buf.StringAt (trimLenCpy b str s.length).ptr (trimmed s) := by
  rw [trimLenCpy_of_padded h.read hpadded, read_trimmed h]
  constructor
  · dsimp only
    rw [Buf.read_put_of_le _ _ (Nat.le_refl _)]
    split
    · exact Buf.read_put_self _ _ _
    · have hnil : trimmed s = [] := List.length_eq_zero_iff.mp (by omega)
      rw [hnil]
      rfl
  · exact Buf.put_cons_mem _ _ _ _
  · exact zero_not_mem_trimmed h.clean

/-- A string without padding is left alone. -/
lemma trimLen_again (h : b.StringAt ptr s) (hstarts : ¬StartsPadded s) (hends : ¬EndsPadded s) :
    trimLen b ptr s.length = ⟨b, ptr, s.length⟩ := by
  have hlead : s.takeWhile isTrimmed = [] := by
    cases s with
    | nil => rfl
    | cons c rest => exact List.takeWhile_cons_of_neg hstarts
  have hnot : ¬(s ≠ [] ∧ EndsPadded (s.dropWhile isTrimmed)) := by
    rw [dropWhile_of_not hstarts]
    exact fun hboth => hends hboth.2
  rw [trimLen_eq h.read, trimmed_of_not hstarts hends, if_neg hnot, hlead, List.length_nil, Nat.add_zero]

/-- The C string at the returned pointer. -/
def returned (fuel : ℕ) (r : TrimRet) : List UInt8 := r.buf.cstr r.ptr fuel

/-- A further call leaves the memory and the pointer as they are. -/
def NoChange (r r' : TrimRet) : Prop := r'.buf = r.buf ∧ r'.ptr = r.ptr

/-- What the functions promise of the string `s` at `str`, which they look for in `fuel` bytes. -/
structure TrimsAlike (b : Buf) (fuel str : ℕ) (s : List UInt8) : Prop where
  trim : returned fuel (trim b fuel str) = trimmed s
  trimCpy : returned fuel (trimCpy b fuel str) = trimmed s
  resLen : (trimLen b str s.length).resLen = (returned fuel (trimLen b str s.length)).length
  resLenCpy : (trimLenCpy b str s.length).resLen = (returned fuel (trimLenCpy b str s.length)).length
  trimAgain : ∀ r, r = GNUWeebBot.trim b fuel str → NoChange r (GNUWeebBot.trim r.buf fuel r.ptr)
  trimCpyAgain : ∀ r, r = GNUWeebBot.trimCpy b fuel str → NoChange r (GNUWeebBot.trimCpy r.buf fuel r.ptr)

lemma length_trimmed_le (s : List UInt8) : (trimmed s).length ≤ s.length :=
  ((List.rdropWhile_prefix _ _).sublist.trans (List.dropWhile_sublist _)).length_le

section Promises

variable {fuel : ℕ}

lemma trim_noChange (h : b.StringAt str s) (hfuel : s.length < fuel) :
    NoChange (trimLen b str s.length)
      (trim (trimLen b str s.length).buf fuel (trimLen b str s.length).ptr) := by
  have hlen := length_trimmed_le s
  have hat := stringAt_trimLen h
  rw [trim, strlenAt_eq hat (by omega),
    trimLen_again hat (not_startsPadded_trimmed s) (not_endsPadded_trimmed s)]
  exact ⟨rfl, rfl⟩

lemma trimCpy_noChange (h : b.StringAt str s) (hfuel : s.length < fuel) :
    NoChange (trimLenCpy b str s.length)
      (trimCpy (trimLenCpy b str s.length).buf fuel (trimLenCpy b str s.length).ptr) := by
  by_cases hpadded : StartsPadded s
  · have hlen := length_trimmed_le s
    have hat := stringAt_trimLenCpy h hpadded
    rw [trimCpy, strlenAt_eq hat (by omega), trimLenCpy_of_not hat.read (not_startsPadded_trimmed s)]
    exact ⟨rfl, rfl⟩
  · rw [trimLenCpy_of_not h.read hpadded, trimCpy, strlenAt_eq h hfuel, trimLenCpy_of_not h.read hpadded]
    exact ⟨rfl, rfl⟩

/-- The string that `trim_cpy` returns. -/
lemma returned_trimLenCpy (h : b.StringAt str s) (hfuel : s.length < fuel) :
    returned fuel (trimLenCpy b str s.length) = if StartsPadded s then trimmed s else s := by
  by_cases hpadded : StartsPadded s
  · have hlen := length_trimmed_le s
    rw [if_pos hpadded]
    exact (stringAt_trimLenCpy h hpadded).cstr (by omega)
  · rw [if_neg hpadded, trimLenCpy_of_not h.read hpadded]
    exact h.cstr hfuel

lemma trimLenCpy_resLen (h : b.StringAt str s) : (trimLenCpy b str s.length).resLen = (trimmed s).length := by
  by_cases hpadded : StartsPadded s
  · rw [trimLenCpy_of_padded h.read hpadded]
  · rw [trimLenCpy_of_not h.read hpadded]

/-- `trim` and `trim_cpy` keep their promises exactly for the strings that have padding
at the start or have none at the end. -/
theorem trims_alike_iff (h : b.StringAt str s) (hfuel : s.length < fuel) :
    TrimsAlike b fuel str s ↔ (EndsPadded s → StartsPadded s) := by
  have htrim : trim b fuel str = trimLen b str s.length := by rw [trim, strlenAt_eq h hfuel]
  have htrimCpy : trimCpy b fuel str = trimLenCpy b str s.length := by rw [trimCpy, strlenAt_eq h hfuel]
  have hlen := length_trimmed_le s
  have hreturned : returned fuel (trimLen b str s.length) = trimmed s := (stringAt_trimLen h).cstr (by omega)
  have hcpy := returned_trimLenCpy h hfuel
  constructor
  · intro hall hends
    by_contra hstarts
    have hsame := hall.trimCpy
    rw [htrimCpy, hcpy, if_neg hstarts] at hsame
    exact not_endsPadded_trimmed s (hsame ▸ hends)
  · intro hpadded
    have hcpy' : returned fuel (trimLenCpy b str s.length) = trimmed s := by
      rw [hcpy]
      split
      · rfl
      · rename_i hstarts
        exact (trimmed_of_not hstarts (fun hends => hstarts (hpadded hends))).symm
    constructor
    · rw [htrim, hreturned]
    · rw [htrimCpy, hcpy']
    · rw [hreturned, trimLen_eq h.read]
    · rw [hcpy', trimLenCpy_resLen h]
    · rintro r rfl
      rw [htrim]
      exact trim_noChange h hfuel
    · rintro r rfl
      rw [htrimCpy]
      exact trimCpy_noChange h hfuel

end Promises

theorem trims_alike_both_ends : TrimsAlike (Buf.ofString 5 (ascii " ab ")) 16 5 (ascii " ab ") :=
  (trims_alike_iff (Buf.stringAt_ofString (by decide)) (by decide)).mpr (by decide)

/-- A space at the end only: `trim_cpy` returns the string as it was, with the length of the shorter one. -/
theorem trailing_space_kept : ¬TrimsAlike (Buf.ofString 5 (ascii "a ")) 16 5 (ascii "a ") := by
  intro h
  exact absurd h.trimCpy (by decide)

end GNUWeebBot.Proofs
