import GNUWeebBot.Model.Json
import GNUWeebBot.Model.Response
import GNUWeebBot.Proofs.ConfigValues

/-!
# The strings of the configuration

A string setting is a pointer into the arena. Where the strings of the file fit there, it points to the value that was given
last, cut after 255 bytes; and the URL of a request, which has 512 bytes, has room for such a token.
-/

namespace GNUWeebBot.Proofs

open Inih

/-! ### The settings -/

inductive StringSetting
  | token
  | bindAddr
  | mysqlHost
  | mysqlUser
  | mysqlPass
  | mysqlDb
  | mysqlUnixSock

def StringSetting.key : StringSetting → String × String
  | .token => ("credential", "token")
  | .bindAddr => ("socket", "bind_addr")
  | .mysqlHost => ("mysql", "host")
  | .mysqlUser => ("mysql", "user")
  | .mysqlPass => ("mysql", "pass")
  | .mysqlDb => ("mysql", "dbname")
  | .mysqlUnixSock => ("mysql", "unix_sock")

def StringSetting.get (cfg : GwbotCfg) : StringSetting → Option ℕ
  | .token => cfg.token
  | .bindAddr => cfg.bindAddr
  | .mysqlHost => cfg.mysql.host
  | .mysqlUser => cfg.mysql.user
  | .mysqlPass => cfg.mysql.pass
  | .mysqlDb => cfg.mysql.db
  | .mysqlUnixSock => cfg.mysql.unixSock

def StringSetting.writes (s : StringSetting) (call : Call) : Bool := call.sect == ascii s.key.1 && call.name == ascii s.key.2

lemma StringSetting.known {s : StringSetting} {call : Call} (h : s.writes call = true) : Known call := by
  simp only [StringSetting.writes, Bool.and_eq_true, beq_iff_eq] at h
  apply known_of_name h.1 h.2
  cases s <;> decide

/-- The setting after a call of the handler: a call for it stores the address of the new block. -/
lemma get_string_parserHandler (s : StringSetting) (ctx : ParseStruct) (call : Call) :
    s.get (parserHandler ctx call).2.cfg = if s.writes call then some ctx.arena.pos else s.get ctx.cfg := by
  apply part_parserHandler (fun ctx => s.get ctx.cfg) (fun _ => rfl) fun _ => s.known
  intro ctx call hknown
  apply hknown.elim
  · intro name value lineno
    cases s <;> rfl
  · simp only [knownNames, List.mem_cons, List.not_mem_nil, or_false]
    rintro p (rfl | rfl | rfl | rfl | rfl | rfl | rfl | rfl | rfl | rfl | rfl | rfl) value lineno
    all_goals cases s <;> rfl

lemma StringSetting.allocates {s : StringSetting} {call : Call} (h : s.writes call = true) : allocates call = true := by
  simp only [StringSetting.writes, Bool.and_eq_true, beq_iff_eq] at h
  unfold Proofs.allocates
  rw [h.1, h.2]
  cases s <;> decide

lemma take_min_length (v : List UInt8) : v.take (min v.length 255) = v.take 255 := by
  rw [Nat.min_comm, ← List.take_eq_take_min]

/-- The pointer of a setting is that of the block for the last value, or it is as it was. -/
lemma get_string_foldl (s : StringSetting) (calls : List Call) (ctx : ParseStruct) :
    match (calls.filter s.writes).getLast? with
    | none => s.get (calls.foldl (fun u c => (parserHandler u c).2) ctx).cfg = s.get ctx.cfg
    | some call => ∃ off, s.get (calls.foldl (fun u c => (parserHandler u c).2) ctx).cfg = some off ∧
        (off, call.value.take 255) ∈ (calls.foldl (fun u c => (parserHandler u c).2) ctx).arena.blocks := by
  induction calls using List.reverseRecOn with
  | nil => rfl
  | append_singleton calls call ih =>
    rw [List.foldl_append, List.foldl_cons, List.foldl_nil, List.filter_append]
    simp only [get_string_parserHandler, parserHandler_arena]
    cases hwrites : s.writes call with
    | true =>
      simp only [List.filter_cons, hwrites, if_true, List.filter_nil, List.getLast?_concat, s.allocates hwrites]
      refine ⟨_, rfl, ?_⟩
      simp only [arStrndup, internalArAlloc, take_min_length]
      exact List.mem_cons_self
    | false =>
      simp only [List.filter_cons, hwrites, Bool.false_eq_true, if_false, List.filter_nil, List.append_nil]
      cases hlast : (calls.filter s.writes).getLast? with
      | none =>
        rw [hlast] at ih
        exact ih
      | some last =>
        rw [hlast] at ih
        obtain ⟨off, hget, hmem⟩ := ih
        refine ⟨off, hget, ?_⟩
        cases allocates call with
        | true => exact List.mem_cons_of_mem _ hmem
        | false => exact hmem

lemma cstr_of_block {a : Arena} {values : List (List UInt8)} (hsafe : ArenaSafe a values) {off : ℕ} {str : List UInt8}
    (hmem : (off, str) ∈ a.blocks) (hlen : str.length < 256) : a.addr.cstr off 256 = cString str := by
  have hholds := hsafe.holds (off, str) hmem
  rw [Buf.read_concat] at hholds
  obtain ⟨hread, hnul⟩ := List.append_inj' hholds rfl
  rw [Buf.cstr_eq_takeWhile a.addr off str.length 256 hlen (List.singleton_inj.mp hnul), hread]
  rfl

/-! ### The URL -/

/-- `https://api.telegram.org/bot<token>/<method>`. -/
def requestUrl (token method : List UInt8) : List UInt8 := ascii "https://api.telegram.org/bot" ++ token ++ [47] ++ method

/-- A loop of `tg_api_post` appends at least one character, and stops at the first one that fills the array. -/
lemma appendUrl_eq (url s : List UInt8) :
    appendUrl url s = (url ++ s.take (max 1 (510 - url.length)), decide (max 1 (510 - url.length) ≤ s.length)) := by
  induction s generalizing url with
  | nil =>
    have hroom : ¬max 1 (510 - url.length) ≤ 0 := by omega
    simp [appendUrl, hroom]
  | cons c s ih =>
    rw [appendUrl, List.length_append, List.length_singleton]
    by_cases hfull : url.length + 1 ≥ urlSize - 2
    · have hone : max 1 (510 - url.length) = 1 := by
        unfold urlSize at hfull
        omega
      rw [if_pos hfull, hone, List.take_succ_cons, List.take_zero, List.length_cons]
      simp
    · have hmore : max 1 (510 - url.length) = max 1 (510 - (url ++ [c]).length) + 1 := by
        unfold urlSize at hfull
        rw [List.length_append, List.length_singleton]
        omega
      rw [if_neg hfull, ih, hmore, List.take_succ_cons, List.length_cons, List.append_assoc]
      simp

/-- The URL of a request is in bounds with its terminator. It is a front part of what it should be, and all of it exactly if
that has at most 510 characters or the loops end together behind the array. -/
lemma postUrl_spec (token method : List UInt8) :
    postUrl token method <+: requestUrl token method ∧ (postUrl token method).length < urlSize ∧
      (postUrl token method = requestUrl token method ↔
        (requestUrl token method).length ≤ 510 ∨ token.length = 481 ∧ method.length = 1) := by
  have hscheme : (ascii "https://api.telegram.org/bot").length = 28 := by decide
  have hlength : (requestUrl token method).length = 29 + token.length + method.length := by
    simp only [requestUrl, List.length_append, List.length_singleton, hscheme]
    omega
  have hwhole : ∀ front, front <+: requestUrl token method →
      (front = requestUrl token method ↔ front.length = (requestUrl token method).length) := by
    intro front hfront
    exact ⟨fun he => he ▸ rfl, hfront.eq_of_length⟩
  unfold postUrl
  rw [appendUrl_eq, hscheme]
  have hroom : max 1 (510 - 28) = 482 := by decide
  rw [hroom]
  by_cases hlong : 482 ≤ token.length
  · simp only [hlong, decide_true, if_true]
    have hfront : ascii "https://api.telegram.org/bot" ++ token.take 482 <+: requestUrl token method := by
      unfold requestUrl
      rw [List.append_assoc, List.append_assoc]
      apply (List.prefix_append_right_inj _).mpr
      exact (List.take_prefix 482 token).trans (List.prefix_append _ _)
    have hlen : (ascii "https://api.telegram.org/bot" ++ token.take 482).length = 510 := by
      rw [List.length_append, hscheme, List.length_take]
      omega
    refine ⟨hfront, ?_, ?_⟩
    · rw [hlen]
      decide
    · rw [hwhole _ hfront, hlen, hlength]
      omega
  · have hshort : token.take 482 = token := List.take_of_length_le (by omega)
    simp only [hlong, decide_false, Bool.false_eq_true, if_false, hshort, appendUrl_eq]
    have hbase : (ascii "https://api.telegram.org/bot" ++ token ++ [47]).length = 29 + token.length := by
      simp only [List.length_append, List.length_singleton, hscheme]
      omega
    rw [hbase]
    have hfront : ascii "https://api.telegram.org/bot" ++ token ++ [47] ++ method.take (max 1 (510 - (29 + token.length))) <+:
        requestUrl token method := by
      unfold requestUrl
      apply (List.prefix_append_right_inj _).mpr
      exact List.take_prefix _ method
    have hlen : (ascii "https://api.telegram.org/bot" ++ token ++ [47] ++
        method.take (max 1 (510 - (29 + token.length)))).length =
        29 + token.length + min (max 1 (510 - (29 + token.length))) method.length := by
      rw [List.length_append, hbase, List.length_take]
    refine ⟨hfront, ?_, ?_⟩
    · rw [hlen]
      unfold urlSize
      omega
    · rw [hwhole _ hfront, hlen, hlength]
      omega

section File

variable {fopen : List UInt8 → Except ℤ (List UInt8)} {c : UInt8} {name file : List UInt8} (junk : ℕ → UInt8) (cfg : GwbotCfg)
  (hopen : fopen (c :: name) = .ok file)

/-- What the file says last about a string setting. -/
def lastString (s : StringSetting) (file : List UInt8) : Option (List UInt8) :=
  ((pairsOf file).filter s.writes).getLast?.map Call.value

include hopen

lemma get_string_gwbotCfgParse (s : StringSetting) (arena : Arena) :
    let parsed := gwbotCfgParse (some (c :: name)) fopen cfg arena
    (lastString s file = none → s.get parsed.2.1 = s.get cfg) ∧
      ∀ value, lastString s file = some value → ∃ off, s.get parsed.2.1 = some off ∧ (off, value.take 255) ∈ parsed.2.2.blocks := by
  intro parsed
  have hcfg : parsed.2.1 = (iniParseFile parserHandler file ⟨true, cfg, arena⟩).user.cfg := by
    unfold parsed gwbotCfgParse
    simp only [hopen]
  have harena : parsed.2.2 = (iniParseFile parserHandler file ⟨true, cfg, arena⟩).user.arena := by
    unfold parsed gwbotCfgParse
    simp only [hopen]
  have huser : (iniParseFile parserHandler file ⟨true, cfg, arena⟩).user =
      (pairsOf file).foldl (fun u call => (parserHandler u call).2) ⟨true, cfg, arena⟩ := by
    rw [iniParseFile, user_foldl]
    rfl
  have hlast := get_string_foldl s (pairsOf file) ⟨true, cfg, arena⟩
  rw [hcfg, harena, huser]
  unfold lastString
  cases hcall : ((pairsOf file).filter s.writes).getLast? with
  | none =>
    rw [hcall] at hlast
    exact ⟨fun _ => hlast, fun value hvalue => by cases hvalue⟩
  | some call =>
    rw [hcall] at hlast
    refine ⟨fun hnone => (by cases hnone), ?_⟩
    rintro value ⟨⟩
    exact hlast

/-- The block of a value is read as a C string. -/
lemma cstr_of_fits (hfits : demand file ≤ 4096) {off : ℕ} {value : List UInt8}
    (hmem : (off, value.take 255) ∈ (gwbotCfgParse (some (c :: name)) fopen cfg (arInit (Buf.fresh junk) 4096)).2.2.blocks) :
    (gwbotCfgParse (some (c :: name)) fopen cfg (arInit (Buf.fresh junk) 4096)).2.2.addr.cstr off 256 =
      cString (value.take 255) := by
  have hsafe : ArenaSafe (arenaAfter junk cfg (fgetsLines [] file)) (valuesOf (callsOf (fgetsLines [] file))) :=
    arenaSafe_of_fits junk cfg hfits
  rw [← gwbotCfgParse_arena junk cfg hopen] at hsafe
  apply cstr_of_block hsafe hmem
  rw [List.length_take]
  omega

end File

/-! A file that sets the token twice. -/

def twoTokens : List UInt8 := ascii "[credential]\ntoken = 1:ab\ntoken = 2:c\n"

lemma demand_twoTokens : demand twoTokens ≤ 4096 := by
  have hvalues : valuesOf (callsOf (fgetsLines [] twoTokens)) = [ascii "1:ab", ascii "2:c"] := by decide
  rw [demand, hvalues]
  decide

lemma lastString_twoTokens : lastString .token twoTokens = some (ascii "2:c") := by decide

section File

variable {fopen : List UInt8 → Except ℤ (List UInt8)} {c : UInt8} {name file : List UInt8} (junk : ℕ → UInt8) (cfg : GwbotCfg)
  (hopen : fopen (c :: name) = .ok file)

include hopen

end File

end GNUWeebBot.Proofs
