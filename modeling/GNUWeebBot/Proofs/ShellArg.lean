import GNUWeebBot.Lib.ShellWords
import GNUWeebBot.Model.Json
import GNUWeebBot.Model.Strings

/-!
# Escaped shell arguments

A quote takes four bytes of the output and any other byte one. The buffer that
`escapeshellarg` allocates has four bytes for each byte and one for the terminator, and
the two enclosing quotes have to find room where the other bytes leave it.
-/

namespace GNUWeebBot.Proofs

def shellEscape (c : UInt8) : List UInt8 := if c = 39 then [39, 92, 39, 39] else [c]

/-- The output without its terminator. -/
def shellQuoted (s : List UInt8) : List UInt8 := 39 :: (s.flatMap shellEscape ++ [39])

/-- The bytes that are escaped: the whole string, or the first `len` bytes of it. -/
def shellArg (s : List UInt8) (len : ℕ) : List UInt8 := if len > 0 then s.take len else s

variable {b : Buf} {fuel str len : ℕ} {s : List UInt8}

lemma escapeLoop_spec (input : List UInt8) (cmd : Buf) (y : ℕ) :
    cmd.Stores (escapeLoop input cmd y).1 y (input.flatMap shellEscape) ∧
      (escapeLoop input cmd y).2 = y + (input.flatMap shellEscape).length := by
  induction input generalizing cmd y with
  | nil => exact ⟨Buf.stores_nil cmd y, rfl⟩
  | cons c input ih =>
    rw [List.flatMap_cons, List.length_append, ← Nat.add_assoc]
    by_cases hc : c = 39
    · have hesc : shellEscape c = [39] ++ [92] ++ [39] ++ [c] := by
        rw [shellEscape, if_pos hc, hc]
        rfl
      have hstores := (((Buf.stores_put cmd y (List.cons_ne_nil 39 [])).append
        (Buf.stores_put _ (y + 1) (List.cons_ne_nil 92 []))).append
        (Buf.stores_put _ (y + 2) (List.cons_ne_nil 39 []))).append
        (Buf.stores_put _ (y + 3) (List.cons_ne_nil c []))
      rw [escapeLoop, if_pos hc, hesc]
      obtain ⟨hrest, hend⟩ := ih _ (y + 4)
      exact ⟨hstores.append hrest, hend⟩
    · have hesc : shellEscape c = [c] := if_neg hc
      rw [escapeLoop, if_neg hc, hesc]
      obtain ⟨hrest, hend⟩ := ih (cmd.put y [c]) (y + 1)
      exact ⟨(Buf.stores_put cmd y (List.cons_ne_nil c [])).append hrest, hend⟩

lemma read_shellArg (h : b.StringAt str s) (hfuel : s.length < fuel) (hlen : len ≤ s.length) :
    b.read str (shellArgLen b fuel str len) = shellArg s len ∧ (shellArg s len).length = shellArgLen b fuel str len := by
  unfold shellArgLen shellArg
  by_cases hpos : len > 0
  · obtain ⟨more, hmore⟩ := Nat.exists_eq_add_of_le hlen
    have hread := h.read
    rw [hmore, Buf.read_add] at hread
    have htake := congrArg (List.take len) hread
    rw [List.take_left' (Buf.read_length _ _ _)] at htake
    rw [if_pos hpos, if_pos hpos, List.length_take]
    exact ⟨htake, Nat.min_eq_left hlen⟩
  · rw [if_neg hpos, if_neg hpos, strlenAt_eq h hfuel]
    exact ⟨h.read, rfl⟩

lemma escapeshellarg_spec (cmd : Buf) (h : b.StringAt str s) (hfuel : s.length < fuel) (hlen : len ≤ s.length) :
    cmd.Stores (escapeshellarg cmd b fuel str len).1 0 (shellQuoted (shellArg s len) ++ [0]) ∧
      (escapeshellarg cmd b fuel str len).2 = (shellQuoted (shellArg s len)).length := by
  obtain ⟨hread, -⟩ := read_shellArg h hfuel hlen
  obtain ⟨hstores, hend⟩ := escapeLoop_spec (shellArg s len) (cmd.put 0 [39]) 1
  rcases hloop : escapeLoop (shellArg s len) (cmd.put 0 [39]) 1 with ⟨cmd', y⟩
  rw [hloop] at hstores hend
  dsimp only at hstores hend
  have hrun : escapeshellarg cmd b fuel str len = ((cmd'.put y [39]).put (y + 1) [0], y + 1) := by
    simp only [escapeshellarg, hread, hloop]
  have hends : cmd'.Stores ((cmd'.put y [39]).put (y + 1) [0]) y ([39] ++ [0]) :=
    (Buf.stores_put cmd' y (List.cons_ne_nil 39 [])).append (Buf.stores_put _ (y + 1) (List.cons_ne_nil 0 []))
  rw [hend, Nat.add_comm] at hends
  have hall := ((Buf.stores_put cmd 0 (List.cons_ne_nil 39 [])).append hstores)
  have hlen : 0 + ([39] ++ (shellArg s len).flatMap shellEscape).length = ((shellArg s len).flatMap shellEscape).length + 1 := by
    simp
  rw [hrun, hend, Nat.add_comm 1]
  constructor
  · have happend := hall.append (hlen.symm ▸ hends)
    simpa [shellQuoted, List.append_assoc] using happend
  · simp [shellQuoted]

lemma zero_not_mem_shellQuoted (hzero : 0 ∉ s) : 0 ∉ shellQuoted s := by
  intro hmem
  rw [shellQuoted, List.mem_cons, List.mem_append, List.mem_flatMap] at hmem
  rcases hmem with h | ⟨c, hc, hin⟩ | h
  · exact absurd h (by decide)
  · unfold shellEscape at hin
    split at hin
    · exact absurd hin (by decide)
    · rw [List.mem_singleton] at hin
      exact hzero (hin ▸ hc)
  · exact absurd h (by decide)

lemma zero_not_mem_shellArg (hzero : 0 ∉ s) (len : ℕ) : 0 ∉ shellArg s len := by
  unfold shellArg
  split
  · exact fun hmem => hzero (List.mem_of_mem_take hmem)
  · exact hzero

lemma quotes_shellEscape (c : UInt8) : ShellWords.Quotes (shellEscape c) c := by
  unfold shellEscape
  split
  · rename_i hc
    exact hc ▸ ShellWords.quotes_quote
  · rename_i hc
    exact ShellWords.quotes_self hc

/-- A shell reads the output as one word, which is the argument. -/
theorem escapeshellarg_round_trip (cmd : Buf) (h : b.StringAt str s) (hfuel : s.length < fuel) (hlen : len ≤ s.length) :
    let r := escapeshellarg cmd b fuel str len
    let output := r.1.cstr 0 (r.2 + 1)
    ShellWords.split output = some [.word (shellArg s len)] ∧ r.2 = output.length := by
  obtain ⟨hstores, hend⟩ := escapeshellarg_spec cmd h hfuel hlen
  have houtput : (escapeshellarg cmd b fuel str len).1.cstr 0 ((escapeshellarg cmd b fuel str len).2 + 1) =
      shellQuoted (shellArg s len) := by
    have hstring := hstores.stringAt (zero_not_mem_shellQuoted (zero_not_mem_shellArg h.clean len))
    exact hstring.cstr (by omega)
  dsimp only
  rw [houtput]
  exact ⟨ShellWords.split_quoted (fun c _ => quotes_shellEscape c), hend⟩

theorem escapeshellarg_round_trip_quote :
    let r := escapeshellarg (Buf.fresh fun _ => 0) (Buf.ofString 3 (ascii "it's; \\")) 16 3 0
    let output := r.1.cstr 0 (r.2 + 1)
    ShellWords.split output = some [.word (ascii "it's; \\")] ∧ r.2 = output.length :=
  escapeshellarg_round_trip _ (Buf.stringAt_ofString (by decide)) (by decide) (Nat.zero_le _)

/-! ### The allocated buffer -/

/-- Each byte but a quote leaves three of its four bytes free. -/
lemma length_shellEscape (s : List UInt8) :
    (s.flatMap shellEscape).length + 3 * s.countP (fun c => c != 39) = 4 * s.length := by
  induction s with
  | nil => rfl
  | cons c s ih =>
    rw [List.flatMap_cons, List.length_append, List.length_cons, List.countP_cons]
    by_cases hc : c = 39
    · have hesc : (shellEscape c).length = 4 := by
        rw [shellEscape, if_pos hc]
        rfl
      have hne : ¬(c != 39) = true := by simp [hc]
      rw [hesc, if_neg hne]
      omega
    · have hesc : (shellEscape c).length = 1 := by
        rw [shellEscape, if_neg hc]
        rfl
      have hne : (c != 39) = true := by simp [hc]
      rw [hesc, if_pos hne]
      omega

/-- The writes stay in the allocated buffer exactly where one of the escaped bytes is not
a quote. -/
theorem escapeshellarg_fits_iff (junk : ℕ → UInt8) (h : b.StringAt str s) (hfuel : s.length < fuel)
    (hlen : len ≤ s.length) :
    (escapeshellarg (Buf.fresh junk) b fuel str len).1.Within (shellArgSize (shellArgLen b fuel str len)) ↔
      ∃ c ∈ shellArg s len, c ≠ 39 := by
  obtain ⟨hstores, -⟩ := escapeshellarg_spec (Buf.fresh junk) h hfuel hlen
  have hcount : (∃ c ∈ shellArg s len, c ≠ 39) ↔ 0 < (shellArg s len).countP (fun c => c != 39) := by
    rw [List.countP_pos_iff]
    simp
  have hbytes := length_shellEscape (shellArg s len)
  rw [hstores.within, ← (read_shellArg h hfuel hlen).2, hcount, shellArgSize]
  simp only [shellQuoted, Buf.within_fresh, List.cons_append, List.append_assoc, List.length_cons, List.length_append,
    List.length_nil]
  simp only [reduceCtorEq, false_or, true_and]
  omega

theorem escapeshellarg_fits_letter :
    (escapeshellarg (Buf.fresh fun _ => 0) (Buf.ofString 0 (ascii "a'")) 8 0 0).1.Within (shellArgSize 2) :=
  (escapeshellarg_fits_iff (fun _ => 0) (Buf.stringAt_ofString (by decide)) (by decide) (by decide)).mpr (by decide)

/-- The empty argument: two quotes and a terminator in a buffer of one byte. -/
theorem empty_argument_overruns :
    ¬(escapeshellarg (Buf.fresh fun _ => 0) (Buf.ofString 0 []) 8 0 0).1.Within (shellArgSize 0) := by
  unfold Buf.Within
  decide

end GNUWeebBot.Proofs
