import GNUWeebBot.Proofs.Config
import Mathlib.Data.Bool.AllAny
import Mathlib.Data.List.Induction
import Mathlib.Data.Nat.Digits.Defs

/-!
# The values of the configuration

`parser_handler` sets a flag for a section or a name that it does not know, and `gwbot_cfg_parse` looks at
that flag alone: the line number that `ini_parse_file` returns for a bad line is no negative number, and
no value is compared with the sixteen bits that it is cast to.
-/

namespace GNUWeebBot.Proofs

open Inih

/-! ### Decimal integers -/

def IsDigit (c : UInt8) : Prop := 48 ≤ c ∧ c ≤ 57

instance (c : UInt8) : Decidable (IsDigit c) := inferInstanceAs (Decidable (48 ≤ c ∧ c ≤ 57))

/-- The number that the digits write, the last one first. -/
def numeral (ds : List UInt8) : ℕ := Nat.ofDigits 10 (ds.map fun c => c.toNat - 48).reverse

/-- A text that writes a decimal integer. -/
inductive Decimal : List UInt8 → ℤ → Prop
  | unsigned {ds : List UInt8} : ds ≠ [] → (∀ c ∈ ds, IsDigit c) → Decimal ds (numeral ds)
  | plus {ds : List UInt8} : ds ≠ [] → (∀ c ∈ ds, IsDigit c) → Decimal (43 :: ds) (numeral ds)
  | minus {ds : List UInt8} : ds ≠ [] → (∀ c ∈ ds, IsDigit c) → Decimal (45 :: ds) (-(numeral ds : ℤ))

lemma digitsValue_eq {ds : List UInt8} (h : ∀ c ∈ ds, IsDigit c) (acc : ℕ) :
    digitsValue acc ds = numeral ds + 10 ^ ds.length * acc := by
  induction ds generalizing acc with
  | nil => simp [digitsValue, numeral]
  | cons c ds ih =>
    obtain ⟨hc, hds⟩ := List.forall_mem_cons.mp h
    have hcons : numeral (c :: ds) = numeral ds + 10 ^ ds.length * (c.toNat - 48) := by
      rw [numeral, List.map_cons, Nat.ofDigits_reverse_cons, List.length_map]
      rfl
    have hstep : digitsValue acc (c :: ds) = digitsValue (acc * 10 + (c.toNat - 48)) ds := if_pos hc
    rw [hstep, ih hds, hcons, List.length_cons]
    ring

lemma not_isspace_of_digit {c : UInt8} (hc : IsDigit c) : ¬isspace c = true := by
  unfold IsDigit at hc
  unfold isspace
  grind

lemma strtol_digits {c : UInt8} (hc : IsDigit c) (ds : List UInt8) :
    strtol (c :: ds) = min (digitsValue 0 (c :: ds) : ℤ) (2 ^ 63 - 1) := by
  have hskip : lskip (c :: ds) = c :: ds := List.dropWhile_cons_of_neg (not_isspace_of_digit hc)
  unfold strtol
  rw [hskip]
  split
  · cases ‹c :: ds = _›
    exact absurd hc (by decide)
  · cases ‹c :: ds = _›
    exact absurd hc (by decide)
  · rfl

/-- `strtol` reads what the text writes, up to its clamping. -/
lemma strtol_decimal {text : List UInt8} {n : ℤ} (h : Decimal text n) :
    strtol text = max (min n (2 ^ 63 - 1)) (-2 ^ 63) := by
  have hvalue : ∀ {ds : List UInt8}, (∀ c ∈ ds, IsDigit c) → digitsValue 0 ds = numeral ds := by
    intro ds hds
    rw [digitsValue_eq hds]
    rfl
  cases h with
  | unsigned hne hds =>
    obtain ⟨c, ds, rfl⟩ := List.exists_cons_of_ne_nil hne
    rw [strtol_digits (hds c List.mem_cons_self), hvalue hds]
    omega
  | plus hne hds =>
    have hskip : ∀ ds, strtol (43 :: ds) = min (digitsValue 0 ds : ℤ) (2 ^ 63 - 1) := fun _ => rfl
    rw [hskip, hvalue hds]
    omega
  | minus hne hds =>
    have hskip : ∀ ds, strtol (45 :: ds) = max (-(digitsValue 0 ds : ℤ)) (-2 ^ 63) := fun _ => rfl
    rw [hskip, hvalue hds]
    omega

/-- The sixteen bits of a number that fits into them. -/
lemma toU16_atoi {text : List UInt8} {n : ℕ} (h : Decimal text n) (hn : n ≤ 65535) : toU16 (atoi text) = n := by
  have hclamp : strtol text = n := by
    rw [strtol_decimal h]
    omega
  rw [atoi, hclamp, Int.bmod_eq_of_le (by omega) (by omega), toU16]
  omega

/-! ### The settings -/

/-- The settings of sixteen bits. -/
inductive Setting
  | bindPort
  | mysqlPort
  | threadC

def Setting.key : Setting → String × String
  | .bindPort => ("socket", "bind_port")
  | .mysqlPort => ("mysql", "port")
  | .threadC => ("worker", "thread_c")

def Setting.get (cfg : GwbotCfg) : Setting → ℕ
  | .bindPort => cfg.bindPort
  | .mysqlPort => cfg.mysql.port
  | .threadC => cfg.threadC

/-- The pair is for this setting. -/
def Setting.writes (s : Setting) (call : Call) : Bool := call.sect == ascii s.key.1 && call.name == ascii s.key.2

lemma Setting.known {s : Setting} {call : Call} (h : s.writes call = true) : Known call := by
  simp only [Setting.writes, Bool.and_eq_true, beq_iff_eq] at h
  apply known_of_name h.1 h.2
  cases s <;> decide

/-- The setting after a call of the handler. -/
lemma get_parserHandler (s : Setting) (ctx : ParseStruct) (call : Call) :
    s.get (parserHandler ctx call).2.cfg = if s.writes call then toU16 (atoi call.value) else s.get ctx.cfg := by
  apply part_parserHandler (fun ctx => s.get ctx.cfg) (fun _ => rfl) fun _ => s.known
  intro ctx call hknown
  apply hknown.elim
  · intro name value lineno
    cases s <;> rfl
  · simp only [knownNames, List.mem_cons, List.not_mem_nil, or_false]
    rintro p (rfl | rfl | rfl | rfl | rfl | rfl | rfl | rfl | rfl | rfl | rfl | rfl) value lineno
    all_goals cases s <;> rfl

/-- The flag after a call of the handler, which is what the handler returns. -/
lemma parserHandler_known {call : Call} (h : Known call) (ctx : ParseStruct) :
    (parserHandler ctx call).1 = true ∧ (parserHandler ctx call).2.exec = ctx.exec := by
  apply h.elim
  · exact fun _ _ _ => ⟨rfl, rfl⟩
  · simp only [knownNames, List.mem_cons, List.not_mem_nil, or_false]
    rintro p (rfl | rfl | rfl | rfl | rfl | rfl | rfl | rfl | rfl | rfl | rfl | rfl) value lineno
    all_goals exact ⟨rfl, rfl⟩

lemma accepts_iff (ctx : ParseStruct) (call : Call) : (parserHandler ctx call).1 = true ↔ Known call := by
  by_cases hknown : Known call
  · exact iff_of_true (parserHandler_known hknown ctx).1 hknown
  · rw [parserHandler_unknown ctx hknown]
    exact iff_of_false Bool.false_ne_true hknown

/-- The flag stays if every pair was known. -/
lemma exec_foldl (calls : List Call) (ctx : ParseStruct) :
    (calls.foldl (fun u c => (parserHandler u c).2) ctx).exec = true ↔ ctx.exec = true ∧ ∀ call ∈ calls, Known call := by
  induction calls generalizing ctx with
  | nil => simp
  | cons call calls ih =>
    rw [List.foldl_cons, ih, List.forall_mem_cons]
    by_cases hknown : Known call
    · rw [(parserHandler_known hknown ctx).2]
      simp [hknown]
    · rw [parserHandler_unknown ctx hknown]
      simp [hknown, ParseStruct.fail]

/-- The last pair for a setting decides. -/
lemma get_foldl (s : Setting) (calls : List Call) (ctx : ParseStruct) :
    s.get (calls.foldl (fun u c => (parserHandler u c).2) ctx).cfg =
      ((calls.filter s.writes).getLast?.elim (s.get ctx.cfg) fun call => toU16 (atoi call.value)) := by
  induction calls using List.reverseRecOn with
  | nil => rfl
  | append_singleton calls call ih =>
    rw [List.foldl_append, List.foldl_cons, List.foldl_nil, get_parserHandler, List.filter_append]
    cases hcall : s.writes call with
    | true => simp [hcall]
    | false => simp [hcall, ih]

/-! ### The lines -/

/-- The parser behind these lines, with any handler that accepts all. -/
def parsed (lines : List (List UInt8)) : State (List Call) := lines.foldl (parseLine note) ⟨[], [], 0, 0, []⟩

/-- The line behind these is none that the format has. -/
def IsBad (front : List (List UInt8)) (line : List UInt8) : Prop :=
  classify (parsed front).prevName ((parsed front).lineno + 1) (lineString line) = .bad

def NoBadLine (lines : List (List UInt8)) : Prop := ∀ front line back, lines = front ++ line :: back → ¬IsBad front line

lemma noBadLine_append {lines : List (List UInt8)} {line : List UInt8} :
    NoBadLine (lines ++ [line]) ↔ NoBadLine lines ∧ ¬IsBad lines line := by
  constructor
  · intro h
    refine ⟨?_, h lines line [] rfl⟩
    rintro front before back rfl
    exact h front before (back ++ [line]) (by simp)
  · rintro ⟨hlines, hline⟩ front last back heq
    rcases List.eq_nil_or_concat back with rfl | ⟨back, tail, rfl⟩
    · obtain ⟨hfront, hlast⟩ := List.append_inj' heq rfl
      cases hfront
      cases hlast
      exact hline
    · apply hlines front last back
      have hcut : lines ++ [line] = (front ++ last :: back) ++ [tail] := by simpa using heq
      exact (List.append_inj' hcut rfl).1

section Handler

variable {U : Type} {handler : U → Call → Bool × U} {Accepts : Call → Prop}
  (haccepts : ∀ u call, (handler u call).1 = true ↔ Accepts call) {user : U} {st : State U} {noted : State (List Call)}

include haccepts

lemma error_call (hlineno : st.lineno ≠ 0) (name value : List UInt8) :
    (st.call handler name value).error = 0 ↔ st.error = 0 ∧ Accepts ⟨st.sect, name, value, st.lineno⟩ := by
  rw [← haccepts st.user]
  unfold State.call
  dsimp only
  cases (handler st.user ⟨st.sect, name, value, st.lineno⟩).1 with
  | true => simp
  | false =>
    by_cases herror : st.error = 0
    · simp [herror, hlineno]
    · simp [herror]

/-- One line leaves an error if it is bad or its pair is not accepted. -/
lemma error_parseLine {Good : Prop} (h : Mirrors handler user st noted)
    (herror : st.error = 0 ↔ Good ∧ ∀ call ∈ noted.user, Accepts call) (line : List UInt8) :
    (parseLine handler st line).error = 0 ↔
      (Good ∧ classify noted.prevName (noted.lineno + 1) (lineString line) ≠ .bad) ∧
        ∀ call ∈ (parseLine note noted line).user, Accepts call := by
  have hcalls : ∀ call, (∀ c ∈ noted.user ++ [call], Accepts c) ↔ (∀ c ∈ noted.user, Accepts c) ∧ Accepts call :=
    fun call => by rw [List.forall_mem_append, List.forall_mem_singleton]
  unfold parseLine
  dsimp only
  rw [h.prevName, h.lineno]
  cases classify noted.prevName (noted.lineno + 1) (lineString line) with
  | comment => simpa using herror
  | header name => simpa using herror
  | more value | pair name value =>
    rw [error_call haccepts (Nat.succ_ne_zero _), herror, h.sect]
    simp only [State.call, note, hcalls, ne_eq, reduceCtorEq, not_false_eq_true, and_true, and_assoc]
  | bad =>
    have hbad : (if st.error = 0 then noted.lineno + 1 else st.error) ≠ 0 := by
      split
      · exact Nat.succ_ne_zero _
      · assumption
    simpa using hbad

/-- `ini_parse_file` returns zero if no line is bad and the handler accepts all pairs. -/
lemma error_eq_zero_iff (lines : List (List UInt8)) (user : U) :
    (lines.foldl (parseLine handler) ⟨[], [], 0, 0, user⟩).error = 0 ↔
      NoBadLine lines ∧ ∀ call ∈ callsOf lines, Accepts call := by
  have hstart : Mirrors handler user ⟨[], [], 0, 0, user⟩ ⟨[], [], 0, 0, []⟩ := ⟨rfl, rfl, rfl, rfl⟩
  induction lines using List.reverseRecOn with
  | nil => simp [NoBadLine, callsOf]
  | append_singleton lines line ih =>
    have hstep := error_parseLine haccepts (hstart.foldl lines) ih line
    rw [List.foldl_append, List.foldl_cons, List.foldl_nil, hstep, noBadLine_append, callsOf, List.foldl_append]
    rfl

end Handler

/-! ### The file -/

/-- The pairs that `parser_handler` is given. -/
def pairsOf (file : List UInt8) : List Call := callsOf (fgetsLines [] file)

/-- Each number for a setting of sixteen bits is a decimal integer that fits. -/
def NumbersFit (file : List UInt8) : Prop :=
  ∀ s : Setting, ∀ call ∈ pairsOf file, s.writes call = true → ∃ n : ℕ, n ≤ 65535 ∧ Decimal call.value n

/-- The file is right, `error` is what `ini_parse_file` returned for it, and `cfg` has its numbers. -/
structure RightFile (file : List UInt8) (error : ℕ) (cfg : GwbotCfg) : Prop where
  noBadLine : NoBadLine (fgetsLines [] file)
  error : error = 0
  known : ∀ call ∈ pairsOf file, Known call
  numbersFit : NumbersFit file
  holds : ∀ s : Setting, ∀ call ∈ ((pairsOf file).filter s.writes).getLast?, Decimal call.value (s.get cfg)

section File

variable {fopen : List UInt8 → Except ℤ (List UInt8)} {c : UInt8} {name file : List UInt8} (cfg : GwbotCfg) (arena : Arena)

lemma gwbotCfgParse_eq_zero_iff (hopen : fopen (c :: name) = .ok file) :
    (gwbotCfgParse (some (c :: name)) fopen cfg arena).1 = 0 ↔ ∀ call ∈ pairsOf file, Known call := by
  have hexec := exec_foldl (pairsOf file) ⟨true, cfg, arena⟩
  rw [gwbotCfgParse_ret cfg arena hopen, iniParseFile, user_foldl]
  unfold pairsOf at hexec ⊢
  rw [← (hexec.trans (and_iff_right rfl))]
  split
  · simpa
  · simp_all [EINVAL]

lemma get_gwbotCfgParse (s : Setting) (hopen : fopen (c :: name) = .ok file) :
    s.get (gwbotCfgParse (some (c :: name)) fopen cfg arena).2.1 =
      ((pairsOf file).filter s.writes).getLast?.elim (s.get cfg) fun call => toU16 (atoi call.value) := by
  have hcfg : (gwbotCfgParse (some (c :: name)) fopen cfg arena).2.1 =
      (iniParseFile parserHandler file ⟨true, cfg, arena⟩).user.cfg := by
    unfold gwbotCfgParse
    simp only [hopen]
  rw [hcfg, iniParseFile, user_foldl, get_foldl]
  rfl

/-- A right file is accepted, and is right only with these. -/
lemma rightFile_iff (hopen : fopen (c :: name) = .ok file) :
    RightFile file (iniParseFile parserHandler file ⟨true, cfg, arena⟩).error
        (gwbotCfgParse (some (c :: name)) fopen cfg arena).2.1 ↔
      (∀ call ∈ pairsOf file, Known call) ∧ NoBadLine (fgetsLines [] file) ∧ NumbersFit file := by
  constructor
  · exact fun h => ⟨h.known, h.noBadLine, h.numbersFit⟩
  · rintro ⟨hknown, hlines, hfit⟩
    refine ⟨hlines, (error_eq_zero_iff accepts_iff _ _).mpr ⟨hlines, hknown⟩, hknown, hfit, ?_⟩
    intro s call hlast
    obtain ⟨hcall, hwrites⟩ := List.mem_filter.mp (List.mem_of_mem_getLast? hlast)
    obtain ⟨n, hn, hdecimal⟩ := hfit s call hcall hwrites
    rw [get_gwbotCfgParse cfg arena s hopen, Option.mem_def.mp hlast]
    dsimp only [Option.elim]
    rwa [toU16_atoi hdecimal hn]

/-- A wrong file is rejected for its unknown names alone. -/
theorem wrong_file_rejected_iff (hopen : fopen (c :: name) = .ok file) :
    ((gwbotCfgParse (some (c :: name)) fopen cfg arena).1 = 0 →
      RightFile file (iniParseFile parserHandler file ⟨true, cfg, arena⟩).error
        (gwbotCfgParse (some (c :: name)) fopen cfg arena).2.1) ↔
      (∃ call ∈ pairsOf file, ¬Known call) ∨ (NoBadLine (fgetsLines [] file) ∧ NumbersFit file) := by
  have hunknown : (∃ call ∈ pairsOf file, ¬Known call) ↔ ¬∀ call ∈ pairsOf file, Known call := by simp
  rw [gwbotCfgParse_eq_zero_iff cfg arena hopen, rightFile_iff cfg arena hopen, hunknown]
  tauto

end File

def emptyCfg : GwbotCfg := ⟨none, none, 0, 0, 0, ⟨none, none, none, none, 0, none⟩, false⟩

/-- The numbers of this file fit. -/
theorem right_file_accepted :
    let file := ascii "[socket]\nbind_port = 8080\n[worker]\nthread_c = +4\n"
    let parsed := gwbotCfgParse (some [97]) (fun _ => .ok file) emptyCfg (arInit (Buf.fresh fun _ => 0) 4096)
    parsed.1 = 0 ∧ parsed.2.1.bindPort = 8080 ∧ parsed.2.1.threadC = 4 ∧
      RightFile file (iniParseFile parserHandler file ⟨true, emptyCfg, arInit (Buf.fresh fun _ => 0) 4096⟩).error parsed.2.1 := by
  intro file parsed
  have hpairs : pairsOf file = [⟨ascii "socket", ascii "bind_port", ascii "8080", 2⟩,
    ⟨ascii "worker", ascii "thread_c", ascii "+4", 4⟩] := rfl
  have hlines : NoBadLine (fgetsLines [] file) :=
    ((error_eq_zero_iff accepts_iff _ ⟨true, emptyCfg, arInit (Buf.fresh fun _ => 0) 4096⟩).mp (by rfl)).1
  have hfit : NumbersFit file := by
    intro s call hcall _
    rw [hpairs, List.mem_cons, List.mem_singleton] at hcall
    rcases hcall with rfl | rfl
    · exact ⟨numeral (ascii "8080"), by decide, .unsigned (by decide) (List.all_iff_forall_prop.mp (by decide))⟩
    · exact ⟨numeral (ascii "4"), by decide, .plus (by decide) (List.all_iff_forall_prop.mp (by decide))⟩
  have hret : parsed.1 = 0 := rfl
  exact ⟨hret, rfl, rfl, (wrong_file_rejected_iff emptyCfg _ rfl).mpr (Or.inr ⟨hlines, hfit⟩) hret⟩

/-- One worker thread in place of 65537. -/
theorem wrong_number_accepted :
    let file := ascii "[worker]\nthread_c = 65537\n"
    let parsed := gwbotCfgParse (some [97]) (fun _ => .ok file) emptyCfg (arInit (Buf.fresh fun _ => 0) 4096)
    parsed.1 = 0 ∧ parsed.2.1.threadC = 1 ∧
      ¬RightFile file (iniParseFile parserHandler file ⟨true, emptyCfg, arInit (Buf.fresh fun _ => 0) 4096⟩).error parsed.2.1 := by
  intro file parsed
  refine ⟨rfl, rfl, fun h => ?_⟩
  have hpair : (⟨ascii "worker", ascii "thread_c", ascii "65537", 2⟩ : Call) ∈ pairsOf file := by
    have hpairs : pairsOf file = [⟨ascii "worker", ascii "thread_c", ascii "65537", 2⟩] := rfl
    rw [hpairs]
    exact List.mem_singleton_self _
  obtain ⟨n, hn, hdecimal⟩ := h.numbersFit .threadC _ hpair rfl
  have hvalue := strtol_decimal hdecimal
  have hread : strtol (ascii "65537") = 65537 := by decide
  dsimp only at hvalue
  omega

end GNUWeebBot.Proofs
