import GNUWeebBot.Model.Admin
import GNUWeebBot.Model.Tokener
import GNUWeebBot.Proofs.DecoderSafety

/-!
# Loading a text with and without its terminator

The loop of `tg_event_json_parse` gives the tokener the same bytes again while it asks for more. With
the terminator the first call is the last one; without it a text that ends too early is given to the
tokener until it makes a value or an error of it, or for ever.
-/

namespace GNUWeebBot.Proofs

open Fill

/-! ### The tokener -/

section Tokener

variable {σ : Type} (tokener : Tokener σ)

/-- The tokener is given all of the bytes. -/
def feed (tok : σ) (bytes : List UInt8) : σ × TokenerError × Json := tokener.parseEx tok bytes bytes.length

/-- What `json_tokener.c` does with a new tokener `tok`. -/
structure Documented (tok : σ) : Prop where
  /-- No more than `len` bytes are read. -/
  given : ∀ tok' str (len : ℕ), len ≤ str.length → tokener.parseEx tok' str len = feed tokener tok' (str.take len)
  /-- A NUL ends the text, with a value or an error. -/
  terminated : ∀ xs, (feed tokener tok (xs ++ [0])).2.1 ≠ .jsonTokenerContinue
  /-- What is a value or an error without the NUL is the same with it. -/
  settled : ∀ xs, (feed tokener tok xs).2.1 ≠ .jsonTokenerContinue →
    (feed tokener tok (xs ++ [0])).2 = (feed tokener tok xs).2
  failed : ∀ xs, (feed tokener tok xs).2.1 ≠ .jsonTokenerSuccess → (feed tokener tok xs).2.2 = .null
  /-- White space leaves the state as it is. -/
  blank : ∀ xs, (∀ c ∈ xs, isWs c = true) →
    (feed tokener tok xs).1 = tok ∧ (feed tokener tok xs).2.1 = .jsonTokenerContinue

/-- What call `k` returns, counted from zero, when each call is given the bytes of `s`. -/
def nthCall (tok : σ) (s : List UInt8) (k : ℕ) : TokenerError × Json := DoWhile.turn (fun tok => feed tokener tok s) k tok

/-- Call `k` is the first one that does not ask for more. -/
def SettledAt (tok : σ) (s : List UInt8) (k : ℕ) : Prop := DoWhile.EndsAt (fun tok => feed tokener tok s) Asks k tok

/-! ### The loop -/

lemma toInt_of_le {length : ℕ} (h : length ≤ Loop.INT_MAX) : Loop.toInt length = length := by
  have hmax : Loop.INT_MAX = 2147483647 := rfl
  have hsize : (UInt32.size : ℤ) = 4294967296 := rfl
  unfold Loop.toInt
  rw [Int.bmod_def, hsize]
  split <;> omega

/-- The loop over the first `length` bytes of a text. -/
def loop (jsonStr : List UInt8) (length fuel : ℕ) (tok : σ) : Option (TokenerError × Json) :=
  DoWhile.run (fun tok => tokener.parseEx tok jsonStr (Loop.toInt length)) Asks fuel tok

variable {tokener} {tok : σ} (hdoc : Documented tokener tok) {s : List UInt8}

include hdoc

lemma loop_ends_iff {jsonStr : List UInt8} {length : ℕ} (hlen : length ≤ jsonStr.length) (hmax : length ≤ Loop.INT_MAX)
    {out : TokenerError × Json} :
    (∃ fuel, loop tokener jsonStr length fuel tok = some out) ↔
      ∃ k, SettledAt tokener tok (jsonStr.take length) k ∧ nthCall tokener tok (jsonStr.take length) k = out := by
  have hbody : (fun tok => tokener.parseEx tok jsonStr (Loop.toInt length)) =
      fun tok => feed tokener tok (jsonStr.take length) := by
    funext tok'
    rw [toInt_of_le hmax]
    exact hdoc.given tok' jsonStr length hlen
  unfold loop SettledAt nthCall
  rw [hbody]
  exact DoWhile.ends_iff

/-- With the terminator the first call is the last one. -/
lemma loop_terminated_iff (hmax : s.length + 1 ≤ Loop.INT_MAX) {out : TokenerError × Json} :
    (∃ fuel, loop tokener (s ++ [0]) (s.length + 1) fuel tok = some out) ↔ (feed tokener tok (s ++ [0])).2 = out := by
  have hall : (s ++ [0]).take (s.length + 1) = s ++ [0] := List.take_of_length_le (by simp)
  have hfirst : ∀ k, SettledAt tokener tok (s ++ [0]) k ↔ k = 0 := fun k =>
    DoWhile.endsAt_iff_of_first (hdoc.terminated s)
  rw [loop_ends_iff hdoc (by simp) hmax, hall]
  simp only [hfirst, exists_eq_left]
  exact Iff.rfl

/-- Without it the calls go on until one of them settles. -/
lemma loop_bare_iff (hmax : s.length + 1 ≤ Loop.INT_MAX) {out : TokenerError × Json} :
    (∃ fuel, loop tokener (s ++ [0]) s.length fuel tok = some out) ↔
      ∃ k, SettledAt tokener tok s k ∧ nthCall tokener tok s k = out := by
  have hall : (s ++ [0]).take s.length = s := List.take_left
  rw [loop_ends_iff hdoc (by simp) (Nat.le_of_succ_le hmax), hall]

/-- On white space no call settles. -/
lemma not_settledAt_blank (hblank : ∀ c ∈ s, isWs c = true) (k : ℕ) : ¬SettledAt tokener tok s k := by
  obtain ⟨hsame, hasks⟩ := hdoc.blank s hblank
  have hcall : ∀ k, DoWhile.turn (fun tok => feed tokener tok s) k tok = (feed tokener tok s).2 := by
    intro k
    induction k with
    | zero => rfl
    | succ k ih => rw [DoWhile.turn, hsame, ih]
  intro h
  refine h.2 ?_
  rw [hcall]
  exact hasks

end Tokener

/-! ### The two entry points -/

/-- `parse_update_id` and `parse_message` one after the other. -/
def loadUpdate (json : Json) : Except Fault (ℤ × Tgev) :=
  call (do parseUpdateId json; parseMessage json) {}

/-- The decoder refuses the value with `-EINVAL`. -/
def RefusedUpdate (json : Json) : Prop := ∃ evt, loadUpdate json = .ok (-EINVAL, evt)

/-- Both calls return the same code, and on zero the same event; or both run into the same fault. -/
inductive SameLoad : Except Fault (ℤ × Tgev) → Except Fault (ℤ × Tgev) → Prop
  | fault (e : Fault) : SameLoad (.error e) (.error e)
  | ret {code : ℤ} {evt evt' : Tgev} : (code = 0 → evt = evt') → SameLoad (.ok (code, evt)) (.ok (code, evt'))

lemma sameLoad_refl (r : Except Fault (ℤ × Tgev)) : SameLoad r r := by
  cases r with
  | error e => exact .fault e
  | ok r => exact .ret (fun _ => rfl)

def DecodeAlike (json json' : Json) : Prop := SameLoad (loadUpdate json) (loadUpdate json')

/-- Where the one value is refused, so has the other one to be. -/
lemma decodeAlike_iff_of_refused {json json' : Json} (h : RefusedUpdate json) : DecodeAlike json json' ↔ RefusedUpdate json' := by
  obtain ⟨evt, hrefused⟩ := h
  unfold DecodeAlike RefusedUpdate
  rw [hrefused]
  constructor
  · intro hsame
    generalize loadUpdate json' = r at hsame
    cases hsame
    exact ⟨_, rfl⟩
  · rintro ⟨evt', hrefused'⟩
    rw [hrefused']
    exact .ret (fun h => absurd h (by decide))

/-- As an error, a number and a literal are. -/
lemma refused_of_not_object {json : Json} (h : ∀ fields, json ≠ .object fields) : RefusedUpdate json := by
  have hnone : json.getEx "update_id" = none := by
    cases json with
    | object fields => exact absurd rfl (h fields)
    | _ => rfl
  unfold RefusedUpdate loadUpdate parseUpdateId
  rw [hnone]
  exact ⟨_, rfl⟩

/-- The test of the code never holds, so a value that was not parsed is decoded too. -/
lemma decodeParsed_eq (ret : ℤ) (json : Json) : call (Loop.decodeParsed ret json) {} = loadUpdate json := by
  unfold Loop.decodeParsed loadUpdate
  rw [if_neg (not_unlikely_neg ret)]

section Loading

variable {σ : Type} (tokener : Tokener σ) (s : List UInt8)

/-- Both loops end, and alike. -/
def LoadsAlike : Prop :=
  ∃ r r', (∃ fuel, Loop.tgEventLoadStr tokener fuel (s ++ [0]) = some r) ∧
    (∃ fuel, Loop.tgEventLoadStrLen tokener fuel (s ++ [0]) s.length = some r') ∧ SameLoad r r'

/-- The first call on the bytes of the text settles; or a later one does, and the decoder makes the same
of its value as of the value of the text with the terminator. -/
def Settles : Prop :=
  ∀ tok ∈ tokener.jsonTokenerNew, ∃ k, SettledAt tokener tok s k ∧
    (k = 0 ∨ DecodeAlike (feed tokener tok (s ++ [0])).2.2 (nthCall tokener tok s k).2)

variable {tokener s}

lemma load_of_loop {tok : σ} (hnew : tokener.jsonTokenerNew = some tok) {jsonStr : List UInt8} {length : ℕ}
    {r : Except Fault (ℤ × Tgev)} :
    (∃ fuel, Loop.internalTgEventLoadStr tokener fuel jsonStr length = some r) ↔
      ∃ out, (∃ fuel, loop tokener jsonStr length fuel tok = some out) ∧ loadUpdate out.2 = r := by
  have hload : ∀ fuel, Loop.internalTgEventLoadStr tokener fuel jsonStr length =
      (loop tokener jsonStr length fuel tok).map fun out => loadUpdate out.2 := by
    intro fuel
    unfold Loop.internalTgEventLoadStr Loop.tgEventJsonParse
    rw [hnew]
    dsimp only
    rw [Option.map_map]
    exact congrArg (fun f => (loop tokener jsonStr length fuel tok).map f) (funext fun out => decodeParsed_eq _ _)
  simp only [hload, Option.map_eq_some_iff]
  constructor
  · rintro ⟨fuel, out, hout, rfl⟩
    exact ⟨out, ⟨fuel, hout⟩, rfl⟩
  · rintro ⟨out, ⟨fuel, hout⟩, rfl⟩
    exact ⟨fuel, out, hout, rfl⟩

/-- The value stays `NULL`. -/
lemma load_of_no_memory (hnew : tokener.jsonTokenerNew = none) {jsonStr : List UInt8} {length : ℕ} :
    Loop.internalTgEventLoadStr tokener 0 jsonStr length = some (loadUpdate .null) := by
  unfold Loop.internalTgEventLoadStr Loop.tgEventJsonParse
  rw [hnew]
  exact congrArg some (decodeParsed_eq _ _)

section Sized

variable (hzero : 0 ∉ s) (hmax : s.length + 1 ≤ Loop.INT_MAX) {tok : σ} (hnew : tokener.jsonTokenerNew = some tok)
  (hdoc : Documented tokener tok) {r : Except Fault (ℤ × Tgev)}

include hmax hnew hdoc

include hzero in
lemma loadStr_iff :
    (∃ fuel, Loop.tgEventLoadStr tokener fuel (s ++ [0]) = some r) ↔
      loadUpdate (feed tokener tok (s ++ [0])).2.2 = r := by
  unfold Loop.tgEventLoadStr
  rw [cString_terminated hzero, load_of_loop hnew]
  simp only [loop_terminated_iff hdoc hmax, exists_eq_left']

lemma loadStrLen_iff :
    (∃ fuel, Loop.tgEventLoadStrLen tokener fuel (s ++ [0]) s.length = some r) ↔
      ∃ k, SettledAt tokener tok s k ∧ loadUpdate (nthCall tokener tok s k).2 = r := by
  unfold Loop.tgEventLoadStrLen
  rw [load_of_loop hnew]
  simp only [loop_bare_iff hdoc hmax]
  constructor
  · rintro ⟨_, ⟨k, hlast, rfl⟩, rfl⟩
    exact ⟨k, hlast, rfl⟩
  · rintro ⟨k, hlast, rfl⟩
    exact ⟨_, ⟨k, hlast, rfl⟩, rfl⟩

end Sized

/-- White space alone is given to the tokener for ever. -/
theorem blank_never_loaded {tok : σ} (hnew : tokener.jsonTokenerNew = some tok) (hdoc : Documented tokener tok)
    (hblank : ∀ c ∈ s, isWs c = true) (hmax : s.length + 1 ≤ Loop.INT_MAX) (fuel : ℕ) :
    Loop.tgEventLoadStrLen tokener fuel (s ++ [0]) s.length = none := by
  rw [Option.eq_none_iff_forall_ne_some]
  intro r hr
  obtain ⟨k, hlast, -⟩ := (loadStrLen_iff hmax hnew hdoc).mp ⟨fuel, hr⟩
  exact not_settledAt_blank hdoc hblank k hlast

/-- The value of a text, as `tgEventLoadStr` of the decoder has it. -/
def valueOf (tokener : Tokener σ) (bytes : List UInt8) : Option Json :=
  tokener.jsonTokenerNew.bind fun tok =>
    if (feed tokener tok bytes).2.1 = .jsonTokenerSuccess then some (feed tokener tok bytes).2.2 else none

/-- With the terminator the loop is the tokener that the decoder is modelled with. -/
theorem loadStr_eq_value (hdoc : ∀ tok ∈ tokener.jsonTokenerNew, Documented tokener tok) (hzero : 0 ∉ s)
    (hmax : s.length + 1 ≤ Loop.INT_MAX) :
    ∃ fuel, Loop.tgEventLoadStr tokener fuel (s ++ [0]) = some (tgEventLoadStr (valueOf tokener) s) := by
  have hdecode : tgEventLoadStr (valueOf tokener) s = loadUpdate ((valueOf tokener (s ++ [0])).getD .null) := by
    unfold tgEventLoadStr internalTgEventLoadStr tgEventJsonParse
    rw [cString_self hzero]
    cases valueOf tokener (s ++ [0]) with
    | none => exact decodeParsed_eq (-EINVAL) .null
    | some json => exact decodeParsed_eq 0 json
  rw [hdecode]
  unfold valueOf
  cases hnew : tokener.jsonTokenerNew with
  | none => exact ⟨0, load_of_no_memory hnew⟩
  | some tok =>
    have hdoc' := hdoc tok hnew
    rw [loadStr_iff hzero hmax hnew hdoc', Option.bind_some]
    by_cases hok : (feed tokener tok (s ++ [0])).2.1 = .jsonTokenerSuccess
    · rw [if_pos hok, Option.getD_some]
    · rw [if_neg hok, Option.getD_none, hdoc'.failed _ hok]

end Loading

/-! ### A tokener for the empty object -/

/-- What is left of json-c for the texts with a brace that is opened and closed. -/
inductive BraceState
  | start
  | opened

/-- `json_tokener_error_parse_eof` has the number 3; the others are unexpected bytes. -/
def braceStep : BraceState → UInt8 → Except (TokenerError × Json) BraceState
  | .start, c => if isWs c then .ok .start else if c = 123 then .ok .opened else .error (.failed (if c = 0 then 3 else 4), .null)
  | .opened, c =>
    if isWs c then .ok .opened
    else if c = 125 then .error (.jsonTokenerSuccess, .object [])
    else .error (.failed (if c = 0 then 3 else 9), .null)

def braceScan : BraceState → List UInt8 → BraceState × TokenerError × Json
  | tok, [] => (tok, .jsonTokenerContinue, .null)
  | tok, c :: bytes =>
    match braceStep tok c with
    | .ok tok => braceScan tok bytes
    | .error out => (tok, out)

def braceTokener : Tokener BraceState where
  jsonTokenerNew := some .start
  parseEx tok str len := braceScan tok (str.take len.toNat)

lemma feed_brace (tok : BraceState) (bytes : List UInt8) : feed braceTokener tok bytes = braceScan tok bytes :=
  congrArg (braceScan tok) (List.take_length)

lemma braceStep_error {tok : BraceState} {c : UInt8} {out : TokenerError × Json} (h : braceStep tok c = .error out) :
    out.1 ≠ .jsonTokenerContinue ∧ (out.1 ≠ .jsonTokenerSuccess → out.2 = .null) := by
  cases tok with
  | start =>
    rw [braceStep] at h
    split at h
    · cases h
    · split at h
      · cases h
      · cases h
        exact ⟨TokenerError.noConfusion, fun _ => rfl⟩
  | opened =>
    rw [braceStep] at h
    split at h
    · cases h
    · split at h
      · cases h
        exact ⟨TokenerError.noConfusion, fun h => absurd rfl h⟩
      · cases h
        exact ⟨TokenerError.noConfusion, fun _ => rfl⟩

/-- The scan of a text goes on with the bytes behind it, or it has settled. -/
lemma braceScan_append (tok : BraceState) (xs ys : List UInt8) :
    if (braceScan tok xs).2.1 = .jsonTokenerContinue then braceScan tok (xs ++ ys) = braceScan (braceScan tok xs).1 ys
    else braceScan tok (xs ++ ys) = braceScan tok xs := by
  induction xs generalizing tok with
  | nil => exact rfl
  | cons c xs ih =>
    rw [List.cons_append, braceScan, braceScan]
    cases hstep : braceStep tok c with
    | ok tok' => exact ih tok'
    | error out => rw [if_neg (braceStep_error hstep).1]

lemma braceScan_failed (tok : BraceState) (xs : List UInt8) (h : (braceScan tok xs).2.1 ≠ .jsonTokenerSuccess) :
    (braceScan tok xs).2.2 = .null := by
  induction xs generalizing tok with
  | nil => rfl
  | cons c xs ih =>
    rw [braceScan] at h ⊢
    cases hstep : braceStep tok c with
    | ok tok' =>
      rw [hstep] at h
      exact ih tok' h
    | error out =>
      rw [hstep] at h
      exact (braceStep_error hstep).2 h

lemma braceScan_blank (xs : List UInt8) (h : ∀ c ∈ xs, isWs c = true) :
    braceScan .start xs = (.start, .jsonTokenerContinue, .null) := by
  induction xs with
  | nil => rfl
  | cons c xs ih =>
    rw [braceScan, braceStep, if_pos (h c List.mem_cons_self)]
    exact ih (fun d hd => h d (List.mem_cons_of_mem c hd))

lemma documented_brace : Documented braceTokener .start where
  given tok str len hlen := by
    rw [feed_brace]
    rfl
  terminated xs := by
    have happend := braceScan_append .start xs [0]
    rw [feed_brace]
    by_cases hgo : (braceScan .start xs).2.1 = .jsonTokenerContinue
    · rw [if_pos hgo] at happend
      rw [happend]
      cases (braceScan .start xs).1 with
      | start => exact TokenerError.noConfusion
      | opened => exact TokenerError.noConfusion
    · rw [if_neg hgo] at happend
      rwa [happend]
  settled xs hlast := by
    have happend := braceScan_append .start xs [0]
    rw [feed_brace] at hlast
    rw [if_neg hlast] at happend
    rw [feed_brace, feed_brace, happend]
  failed xs hlast := by
    rw [feed_brace] at hlast ⊢
    exact braceScan_failed .start xs hlast
  blank xs hblank := by
    rw [feed_brace, braceScan_blank xs hblank]
    exact ⟨rfl, rfl⟩

end GNUWeebBot.Proofs
