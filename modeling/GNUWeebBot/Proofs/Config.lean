import GNUWeebBot.Model.Config

/-!
# The arena of the configuration

The strings of a configuration file lie behind each other in the arena. They all lie inside it exactly if
the values of the file need no more bytes than it has; nothing in the release build looks for more.
-/

namespace GNUWeebBot.Proofs
open Inih

/-! ### The arena -/

/-- What `ar_strndup` takes from the arena. -/
def needed (value : List UInt8) : ℕ := min value.length 255 + 1

def dupAll (a : Arena) (values : List (List UInt8)) : Arena := values.foldl (fun a v => (arStrndup a v 255).2) a

/-- The blocks for `values` are inside the arena, apart from each other, and hold their strings. -/
structure ArenaSafe (a : Arena) (values : List (List UInt8)) : Prop where
  inside : ∀ b ∈ a.blocks, b.1 + (b.2.length + 1) ≤ a.size
  disjoint : a.blocks.Pairwise (fun b c => c.1 + (c.2.length + 1) ≤ b.1 ∨ b.1 + (b.2.length + 1) ≤ c.1)
  strings : a.blocks.map Prod.snd = (values.map (List.take 255)).reverse
  holds : ∀ b ∈ a.blocks, a.addr.read b.1 (b.2.length + 1) = b.2 ++ [0]
  unused : arUnusedSize a + a.pos = a.size
  within : a.addr.Within a.size

/-- The blocks lie below the position. -/
structure ArenaInv (a : Arena) (values : List (List UInt8)) : Prop where
  size : a.size < 2 ^ 63
  pos : a.pos ≤ a.size
  below : ∀ b ∈ a.blocks, b.1 + (b.2.length + 1) ≤ a.pos
  disjoint : a.blocks.Pairwise (fun b c => c.1 + (c.2.length + 1) ≤ b.1 ∨ b.1 + (b.2.length + 1) ≤ c.1)
  strings : a.blocks.map Prod.snd = (values.map (List.take 255)).reverse
  holds : ∀ b ∈ a.blocks, a.addr.read b.1 (b.2.length + 1) = b.2 ++ [0]
  within : a.addr.Within a.size

section Arena

variable {a : Arena} {values : List (List UInt8)}

lemma ArenaInv.safe (h : ArenaInv a values) : ArenaSafe a values where
  inside b hb := Nat.le_trans (h.below b hb) h.pos
  disjoint := h.disjoint
  strings := h.strings
  holds := h.holds
  unused := by
    have hsize := h.size
    have hpos := h.pos
    rw [arUnusedSize, sizeSub_of_le hpos (by omega)]
    omega
  within := h.within

lemma arenaInv_arInit (junk : ℕ → UInt8) {size : ℕ} (hsize : size < 2 ^ 63) : ArenaInv (arInit (Buf.fresh junk) size) [] where
  size := hsize
  pos := Nat.zero_le _
  below := by simp [arInit]
  disjoint := List.Pairwise.nil
  strings := rfl
  holds := by simp [arInit]
  within := Buf.within_fresh _ _

/-- The new block as it is in memory. -/
lemma read_dup (b : Buf) (ret : ℕ) (s : List UInt8) :
    ((b.put (ret + s.length) [0]).put ret s).read ret (s.length + 1) = s ++ [0] := by
  have hnul : ((b.put (ret + s.length) [0]).put ret s).read (ret + s.length) 1 = [0] := by
    rw [Buf.read_put_of_ge _ _ (Nat.le_refl _)]
    exact Buf.read_put_self b (ret + s.length) [0]
  rw [Buf.read_add, Buf.read_put_self, hnul]

/-- A string for which there is room. -/
lemma ArenaInv.dup (h : ArenaInv a values) {v : List UInt8} (hroom : a.pos + needed v ≤ a.size) :
    ArenaInv (arStrndup a v 255).2 (values ++ [v]) ∧ (arStrndup a v 255).2.pos = a.pos + needed v := by
  have hsize := h.size
  unfold needed at hroom ⊢
  have hlen : (v.take (min v.length 255)).length = min v.length 255 := by
    rw [List.length_take]
    omega
  have hmod : (a.pos + (min v.length 255 + 1)) % 2 ^ 64 = a.pos + (min v.length 255 + 1) := Nat.mod_eq_of_lt (by omega)
  refine ⟨⟨hsize, ?_, ?_, ?_, ?_, ?_, ?_⟩, hmod⟩
  · simp only [arStrndup, internalArAlloc]
    rw [hmod]
    exact hroom
  · intro b hb
    simp only [arStrndup, internalArAlloc, List.mem_cons] at hb ⊢
    rw [hmod]
    rcases hb with rfl | hb
    · rw [hlen]
    · exact Nat.le_trans (h.below b hb) (Nat.le_add_right _ _)
  · simp only [arStrndup, internalArAlloc, List.pairwise_cons]
    exact ⟨fun b hb => .inl (h.below b hb), h.disjoint⟩
  · simp only [arStrndup, internalArAlloc, List.map_cons, List.map_append, List.map_nil, List.reverse_append,
      List.reverse_cons, List.reverse_nil, List.nil_append, List.singleton_append]
    have htake : v.take (min v.length 255) = v.take 255 := by rw [Nat.min_comm, ← List.take_eq_take_min]
    rw [h.strings, htake]
  · intro b hb
    simp only [arStrndup, internalArAlloc, List.mem_cons] at hb ⊢
    rcases hb with rfl | hb
    · have hread := read_dup a.addr a.pos (v.take (min v.length 255))
      rw [hlen] at hread
      rw [hlen]
      exact hread
    · have hbelow := h.below b hb
      rw [Buf.read_put_of_le _ _ hbelow, Buf.read_put_of_le _ _ (by omega)]
      exact h.holds b hb
  · simp only [arStrndup, internalArAlloc]
    rw [Buf.within_put, Buf.within_put, hlen, List.length_singleton]
    exact ⟨by omega, by omega, h.within⟩

/-- All strings fit. -/
lemma ArenaInv.dupAll (h : ArenaInv a values) (more : List (List UInt8)) (hroom : a.pos + (more.map needed).sum ≤ a.size) :
    ArenaInv (dupAll a more) (values ++ more) := by
  induction more generalizing a values with
  | nil =>
    rw [List.append_nil]
    exact h
  | cons v more ih =>
    rw [List.map_cons, List.sum_cons] at hroom
    obtain ⟨hinv, hpos⟩ := h.dup (v := v) (by omega)
    have hrest := ih hinv (by rw [hpos]; simp only [arStrndup, internalArAlloc]; omega)
    rw [List.append_assoc] at hrest
    exact hrest

lemma blocks_subset_dupAll (a : Arena) (more : List (List UInt8)) : ∀ b ∈ a.blocks, b ∈ (dupAll a more).blocks := by
  induction more generalizing a with
  | nil => exact fun b hb => hb
  | cons v more ih => exact fun b hb => ih _ b (List.mem_cons_of_mem _ hb)

lemma size_dupAll (a : Arena) (more : List (List UInt8)) : (dupAll a more).size = a.size := by
  induction more generalizing a with
  | nil => rfl
  | cons v more ih => exact ih _

/-- The first string that does not fit lies outside. -/
lemma ArenaInv.overrun (h : ArenaInv a values) {more : List (List UInt8)} (hfull : a.size < a.pos + (more.map needed).sum) :
    ∃ b ∈ (Proofs.dupAll a more).blocks, a.size < b.1 + (b.2.length + 1) := by
  induction more generalizing a values with
  | nil =>
    have hpos := h.pos
    rw [List.map_nil, List.sum_nil] at hfull
    omega
  | cons v more ih =>
    rw [List.map_cons, List.sum_cons] at hfull
    by_cases hroom : a.pos + needed v ≤ a.size
    · obtain ⟨hinv, hpos⟩ := h.dup hroom
      exact ih hinv (by rw [hpos]; simp only [arStrndup, internalArAlloc]; omega)
    · have hblock : (a.pos, v.take (min v.length 255)) ∈ (arStrndup a v 255).2.blocks := List.mem_cons_self
      refine ⟨_, blocks_subset_dupAll _ more _ hblock, ?_⟩
      unfold needed at hroom
      rw [List.length_take]
      omega

end Arena

/-! ### The calls of the handler -/

/-- A handler that notes its calls. -/
def note (calls : List Call) (call : Call) : Bool × List Call := (true, calls ++ [call])

/-- The calls of the handler for these lines; what it returns has no influence on them. -/
def callsOf (lines : List (List UInt8)) : List Call := (lines.foldl (parseLine note) ⟨[], [], 0, 0, []⟩).user

section Calls

variable {U : Type} (handler : U → Call → Bool × U)

/-- Two parsers at the same place, one of which notes the calls of the other's handler. -/
structure Mirrors (user : U) (st : State U) (noted : State (List Call)) : Prop where
  sect : st.sect = noted.sect
  prevName : st.prevName = noted.prevName
  lineno : st.lineno = noted.lineno
  user : st.user = noted.user.foldl (fun u c => (handler u c).2) user

variable {handler} {user : U} {st : State U} {noted : State (List Call)}

lemma Mirrors.call (h : Mirrors handler user st noted) (name value : List UInt8) :
    Mirrors handler user (st.call handler name value) (noted.call note name value) := by
  refine ⟨h.sect, h.prevName, h.lineno, ?_⟩
  simp only [State.call, note, List.foldl_append, List.foldl_cons, List.foldl_nil]
  rw [h.user, h.sect, h.lineno]

lemma Mirrors.parseLine (h : Mirrors handler user st noted) (bytes : List UInt8) :
    Mirrors handler user (parseLine handler st bytes) (parseLine note noted bytes) := by
  have hnext : Mirrors handler user { st with prevName := noted.prevName, lineno := noted.lineno + 1 }
      { noted with lineno := noted.lineno + 1 } := ⟨h.sect, rfl, rfl, h.user⟩
  unfold Inih.parseLine
  dsimp only
  rw [h.prevName, h.lineno]
  cases classify noted.prevName (noted.lineno + 1) (lineString bytes) with
  | comment => exact hnext
  | more value => exact hnext.call _ value
  | header name => exact ⟨rfl, rfl, hnext.lineno, hnext.user⟩
  | pair name value =>
    have hnamed : Mirrors handler user { st with lineno := noted.lineno + 1, prevName := strncpy0 name MAX_NAME }
        { noted with lineno := noted.lineno + 1, prevName := strncpy0 name MAX_NAME } :=
      ⟨hnext.sect, rfl, rfl, hnext.user⟩
    exact hnamed.call name value
  | bad => exact ⟨hnext.sect, hnext.prevName, hnext.lineno, hnext.user⟩

lemma Mirrors.foldl (h : Mirrors handler user st noted) (lines : List (List UInt8)) :
    Mirrors handler user (lines.foldl (Inih.parseLine handler) st) (lines.foldl (Inih.parseLine note) noted) := by
  induction lines generalizing st noted with
  | nil => exact h
  | cons line lines ih => exact ih (h.parseLine line)

/-- What the handler has made of the lines. -/
lemma user_foldl (user : U) (lines : List (List UInt8)) :
    (lines.foldl (parseLine handler) ⟨[], [], 0, 0, user⟩).user =
      (callsOf lines).foldl (fun u c => (handler u c).2) user := by
  have hstart : Mirrors handler user ⟨[], [], 0, 0, user⟩ ⟨[], [], 0, 0, []⟩ := ⟨rfl, rfl, rfl, rfl⟩
  exact (hstart.foldl lines).user

/-- Later lines only add calls. -/
lemma callsOf_append (front lines : List (List UInt8)) : callsOf front <+: callsOf (front ++ lines) := by
  unfold callsOf
  rw [List.foldl_append]
  generalize front.foldl (parseLine note) ⟨[], [], 0, 0, []⟩ = st
  induction lines generalizing st with
  | nil => exact List.prefix_refl _
  | cons line lines ih =>
    have hline : st.user <+: (parseLine note st line).user := by
      unfold Inih.parseLine
      dsimp only
      split
      · exact List.prefix_refl _
      · exact List.prefix_append _ _
      · exact List.prefix_refl _
      · exact List.prefix_append _ _
      · exact List.prefix_refl _
    exact hline.trans (ih (parseLine note st line))

end Calls

/-! ### The configuration -/

def mysqlStrings : List (List UInt8) := [ascii "host", ascii "user", ascii "pass", ascii "dbname", ascii "unix_sock"]

/-- The names whose value goes into the arena. -/
def allocates (call : Call) : Bool :=
  (call.sect == ascii "credential" && call.name == ascii "token") ||
    (call.sect == ascii "mysql" && mysqlStrings.contains call.name) ||
    (call.sect == ascii "socket" && call.name == ascii "bind_addr")

/-- The values that go into the arena. -/
def valuesOf (calls : List Call) : List (List UInt8) := (calls.filter allocates).map Call.value

/-- The names of each section, as the handler asks for them. -/
def knownNames : List (String × String) :=
  [("credential", "token"), ("mysql", "use_db"), ("mysql", "host"), ("mysql", "port"), ("mysql", "user"), ("mysql", "pass"),
    ("mysql", "dbname"), ("mysql", "unix_sock"), ("socket", "bind_addr"), ("socket", "bind_port"), ("socket", "backlog"),
    ("worker", "thread_c")]

/-- A known name in a known section; no name of the storage section has been given a meaning yet, and none
is refused. -/
def Known (call : Call) : Prop :=
  call.sect = ascii "storage" ∨ ∃ p ∈ knownNames, call.sect = ascii p.1 ∧ call.name = ascii p.2

lemma known_of_name {call : Call} {sect name : String} (hsect : call.sect = ascii sect) (hname : call.name = ascii name)
    (h : (sect, name) ∈ knownNames) : Known call := Or.inr ⟨(sect, name), h, hsect, hname⟩

/-- An unknown pair passes all comparisons of its section. -/
lemma parserHandler_unknown (ctx : ParseStruct) {call : Call} (h : ¬Known call) : parserHandler ctx call = ctx.fail := by
  have hstorage : call.sect ≠ ascii "storage" := fun hsect => h (Or.inl hsect)
  have hne : ∀ sect name, call.sect = ascii sect → (sect, name) ∈ knownNames → call.name ≠ ascii name :=
    fun _ _ hsect hmem hname => h (known_of_name hsect hname hmem)
  unfold parserHandler
  dsimp only
  by_cases hcredential : call.sect = ascii "credential"
  · rw [if_pos hcredential, if_neg (hne _ "token" hcredential (by decide))]
  rw [if_neg hcredential, if_neg hstorage]
  by_cases hmysql : call.sect = ascii "mysql"
  · rw [if_pos hmysql, if_neg (hne _ "use_db" hmysql (by decide)), if_neg (hne _ "host" hmysql (by decide)),
      if_neg (hne _ "port" hmysql (by decide)), if_neg (hne _ "user" hmysql (by decide)),
      if_neg (hne _ "pass" hmysql (by decide)), if_neg (hne _ "dbname" hmysql (by decide)),
      if_neg (hne _ "unix_sock" hmysql (by decide))]
  rw [if_neg hmysql]
  by_cases hsocket : call.sect = ascii "socket"
  · rw [if_pos hsocket, if_neg (hne _ "bind_addr" hsocket (by decide)), if_neg (hne _ "bind_port" hsocket (by decide)),
      if_neg (hne _ "backlog" hsocket (by decide))]
  rw [if_neg hsocket]
  by_cases hworker : call.sect = ascii "worker"
  · rw [if_pos hworker, if_neg (hne _ "thread_c" hworker (by decide))]
  rw [if_neg hworker]

/-- What holds in the storage section and for every name in the table holds for a known name. -/
lemma Known.elim {P : Call → Prop} {call : Call} (h : Known call)
    (hstorage : ∀ name value lineno, P ⟨ascii "storage", name, value, lineno⟩)
    (hnames : ∀ p ∈ knownNames, ∀ value lineno, P ⟨ascii p.1, ascii p.2, value, lineno⟩) : P call := by
  obtain ⟨sect, name, value, lineno⟩ := call
  rcases h with hsect | ⟨p, hp, hsect, hname⟩
  · cases hsect
    exact hstorage name value lineno
  · cases hsect
    cases hname
    exact hnames p hp value lineno

/-- A part of the state that the flag is not in, and that only known calls write: it is as the known names leave it. -/
lemma part_parserHandler {α : Type} (part : ParseStruct → α) {writes : Call → Bool} {new : ParseStruct → Call → α}
    (hflag : ∀ ctx : ParseStruct, part ctx.fail.2 = part ctx) (hwrites : ∀ call, writes call = true → Known call)
    (hknown : ∀ ctx call, Known call → part (parserHandler ctx call).2 = if writes call then new ctx call else part ctx)
    (ctx : ParseStruct) (call : Call) :
    part (parserHandler ctx call).2 = if writes call then new ctx call else part ctx := by
  by_cases hcall : Known call
  · exact hknown ctx call hcall
  · have hother : ¬writes call = true := fun h => hcall (hwrites call h)
    rw [parserHandler_unknown ctx hcall, if_neg hother, hflag]

lemma known_of_allocates {call : Call} (h : allocates call = true) : Known call := by
  simp only [allocates, mysqlStrings, Bool.or_eq_true, Bool.and_eq_true, beq_iff_eq, List.contains_iff_mem, List.mem_cons,
    List.not_mem_nil, or_false] at h
  rcases h with (⟨hsect, hname⟩ | ⟨hsect, hname⟩) | ⟨hsect, hname⟩
  · exact known_of_name hsect hname (by decide)
  · rcases hname with hname | hname | hname | hname | hname
    all_goals exact known_of_name hsect hname (by decide)
  · exact known_of_name hsect hname (by decide)

/-- `parser_handler` and the arena: only the names of strings take something from it. -/
lemma parserHandler_arena (ctx : ParseStruct) (call : Call) :
    (parserHandler ctx call).2.arena = if allocates call then (arStrndup ctx.arena call.value 255).2 else ctx.arena := by
  apply part_parserHandler (fun ctx => ctx.arena) (fun _ => rfl) fun _ => known_of_allocates
  intro ctx call hknown
  apply hknown.elim
  · exact fun _ _ _ => rfl
  · simp only [knownNames, List.mem_cons, List.not_mem_nil, or_false]
    rintro p (rfl | rfl | rfl | rfl | rfl | rfl | rfl | rfl | rfl | rfl | rfl | rfl) value lineno
    all_goals rfl

lemma arena_foldl (calls : List Call) (ctx : ParseStruct) :
    (calls.foldl (fun u c => (parserHandler u c).2) ctx).arena = dupAll ctx.arena (valuesOf calls) := by
  induction calls generalizing ctx with
  | nil => rfl
  | cons call calls ih =>
    rw [List.foldl_cons, ih, parserHandler_arena]
    cases hcall : allocates call with
    | true => simp [valuesOf, hcall, dupAll]
    | false => simp [valuesOf, hcall]

/-- The arena after these lines of the file. -/
def arenaAfter (junk : ℕ → UInt8) (cfg : GwbotCfg) (lines : List (List UInt8)) : Arena :=
  (lines.foldl (parseLine parserHandler) ⟨[], [], 0, 0, ⟨true, cfg, arInit (Buf.fresh junk) 4096⟩⟩).user.arena

lemma arenaAfter_eq (junk : ℕ → UInt8) (cfg : GwbotCfg) (lines : List (List UInt8)) :
    arenaAfter junk cfg lines = dupAll (arInit (Buf.fresh junk) 4096) (valuesOf (callsOf lines)) := by
  rw [arenaAfter, user_foldl, arena_foldl]

/-- What the strings of the file need. -/
def demand (file : List UInt8) : ℕ := ((valuesOf (callsOf (fgetsLines [] file))).map needed).sum

lemma sum_needed_le {calls more : List Call} (h : calls <+: more) :
    ((valuesOf calls).map needed).sum ≤ ((valuesOf more).map needed).sum := by
  obtain ⟨rest, rfl⟩ := h
  simp [valuesOf]

variable {fopen : List UInt8 → Except ℤ (List UInt8)} {c : UInt8} {name file : List UInt8}

lemma gwbotCfgParse_arena (junk : ℕ → UInt8) (cfg : GwbotCfg) (hopen : fopen (c :: name) = .ok file) :
    (gwbotCfgParse (some (c :: name)) fopen cfg (arInit (Buf.fresh junk) 4096)).2.2 =
      arenaAfter junk cfg (fgetsLines [] file) := by
  unfold gwbotCfgParse
  simp only [hopen]
  rfl

lemma gwbotCfgParse_ret (cfg : GwbotCfg) (arena : Arena) (hopen : fopen (c :: name) = .ok file) :
    (gwbotCfgParse (some (c :: name)) fopen cfg arena).1 =
      if (iniParseFile parserHandler file ⟨true, cfg, arena⟩).user.exec then 0 else -EINVAL := by
  unfold gwbotCfgParse
  simp only [hopen]

lemma arenaSafe_of_fits (junk : ℕ → UInt8) (cfg : GwbotCfg) {lines : List (List UInt8)}
    (hfits : ((valuesOf (callsOf lines)).map needed).sum ≤ 4096) :
    ArenaSafe (arenaAfter junk cfg lines) (valuesOf (callsOf lines)) := by
  have hinit : ArenaInv (arInit (Buf.fresh junk) 4096) [] := arenaInv_arInit junk (by decide)
  have hinv := hinit.dupAll (valuesOf (callsOf lines)) (by simpa [arInit] using hfits)
  rw [List.nil_append, ← arenaAfter_eq junk cfg] at hinv
  exact hinv.safe

lemma outside_of_demand (junk : ℕ → UInt8) (cfg : GwbotCfg) (hfull : 4096 < demand file) :
    ∃ b ∈ (arenaAfter junk cfg (fgetsLines [] file)).blocks, 4096 < b.1 + (b.2.length + 1) := by
  have hinit : ArenaInv (arInit (Buf.fresh junk) 4096) [] := arenaInv_arInit junk (by decide)
  have hsum : (arInit (Buf.fresh junk) 4096).size <
      (arInit (Buf.fresh junk) 4096).pos + ((valuesOf (callsOf (fgetsLines [] file))).map needed).sum := by
    simp only [arInit, Nat.zero_add]
    exact hfull
  rw [arenaAfter_eq]
  exact hinit.overrun hsum

/-- A configuration file keeps to the arena, at every line of it, exactly if its strings fit. -/
theorem arena_safe_iff (junk : ℕ → UInt8) (cfg : GwbotCfg) (hopen : fopen (c :: name) = .ok file) :
    ((∀ n, ArenaSafe (arenaAfter junk cfg ((fgetsLines [] file).take n))
        (valuesOf (callsOf ((fgetsLines [] file).take n)))) ∧
      ArenaSafe (gwbotCfgParse (some (c :: name)) fopen cfg (arInit (Buf.fresh junk) 4096)).2.2
        (valuesOf (callsOf (fgetsLines [] file))) ∧
      (4096 < demand file → (gwbotCfgParse (some (c :: name)) fopen cfg (arInit (Buf.fresh junk) 4096)).1 ≠ 0)) ↔
      demand file ≤ 4096 := by
  rw [gwbotCfgParse_arena junk cfg hopen]
  constructor
  · rintro ⟨-, hsafe, -⟩
    by_contra hfull
    obtain ⟨b, hb, hout⟩ := outside_of_demand junk cfg (Nat.lt_of_not_le hfull)
    have hin := hsafe.inside b hb
    rw [arenaAfter_eq, size_dupAll] at hin
    simp only [arInit] at hin
    omega
  · intro hdemand
    refine ⟨fun n => ?_, arenaSafe_of_fits junk cfg hdemand, fun hfull => absurd hdemand (Nat.not_le.mpr hfull)⟩
    have hearlier : callsOf ((fgetsLines [] file).take n) <+: callsOf (fgetsLines [] file) := by
      have happend := callsOf_append ((fgetsLines [] file).take n) ((fgetsLines [] file).drop n)
      rwa [List.take_append_drop] at happend
    exact arenaSafe_of_fits junk cfg (Nat.le_trans (sum_needed_le hearlier) hdemand)

/-- One token of three bytes. -/
theorem arena_safe_of_token :
    let file := ascii "[credential]\ntoken = abc\n"
    let parsed := gwbotCfgParse (some [97]) (fun _ => .ok file) ⟨none, none, 0, 0, 0, ⟨none, none, none, none, 0, none⟩, false⟩
      (arInit (Buf.fresh fun _ => 0) 4096)
    demand file = 4 ∧ ArenaSafe parsed.2.2 [ascii "abc"] := by
  have hvalues : valuesOf (callsOf (fgetsLines [] (ascii "[credential]\ntoken = abc\n"))) = [ascii "abc"] := by decide
  have hdemand : demand (ascii "[credential]\ntoken = abc\n") = 4 := by
    rw [demand, hvalues]
    decide
  have hsafe := (@arena_safe_iff (fun _ => .ok (ascii "[credential]\ntoken = abc\n")) 97 [] _ (fun _ => 0)
    ⟨none, none, 0, 0, 0, ⟨none, none, none, none, 0, none⟩, false⟩ rfl).mpr (by omega)
  rw [hvalues] at hsafe
  exact ⟨hdemand, hsafe.2.1⟩

/-! ### A token that is set again and again -/

def tokenLine : List UInt8 := ascii "token=a\n"

/-- A file with `n` tokens. -/
def tokens (n : ℕ) : List UInt8 := ascii "[credential]\n" ++ (List.replicate n tokenLine).flatten

lemma fgetsLines_tokens (n : ℕ) : fgetsLines [] (tokens n) = ascii "[credential]\n" :: List.replicate n tokenLine := by
  have hlines : fgetsLines [] (List.replicate n tokenLine).flatten = List.replicate n tokenLine := by
    induction n with
    | zero => rfl
    | succ n ih =>
      rw [List.replicate_succ, List.flatten_cons]
      have hline : fgetsLines [] (tokenLine ++ (List.replicate n tokenLine).flatten) =
          tokenLine :: fgetsLines [] (List.replicate n tokenLine).flatten := rfl
      rw [hline, ih]
  have hheader : fgetsLines [] (tokens n) =
      ascii "[credential]\n" :: fgetsLines [] (List.replicate n tokenLine).flatten := rfl
  rw [hheader, hlines]

lemma classify_tokenLine (prevName : List UInt8) (lineno : ℕ) :
    classify prevName lineno (lineString tokenLine) = .pair (ascii "token") (ascii "a") := by
  have hbom : skipBom lineno (lineString tokenLine) = lineString tokenLine := if_neg (fun h => absurd h.2 (by decide))
  have hspace : ¬ (prevName ≠ [] ∧ ((lineString tokenLine).length < (lineString tokenLine).length ∨
      (lineString tokenLine).head?.any isspace)) := fun h => absurd h.2 (by decide)
  have hstart : lskip (rstrip (lineString tokenLine)) = 116 :: ascii "oken=a" := by decide
  unfold classify
  rw [hbom, hstart]
  dsimp only
  rw [if_neg (by decide), if_neg hspace]
  rfl

lemma parseLine_tokenLine {U : Type} (handler : U → Call → Bool × U) (st : State U) :
    parseLine handler st tokenLine = State.call handler
      { st with lineno := st.lineno + 1, prevName := strncpy0 (ascii "token") MAX_NAME } (ascii "token") (ascii "a") := by
  unfold parseLine
  dsimp only
  rw [classify_tokenLine]

/-- Each token is one more string. -/
lemma valuesOf_tokens (n : ℕ) : valuesOf (callsOf (fgetsLines [] (tokens n))) = List.replicate n (ascii "a") := by
  have hrun : ∀ st : State (List Call), st.sect = ascii "credential" →
      valuesOf ((List.replicate n tokenLine).foldl (parseLine note) st).user =
        valuesOf st.user ++ List.replicate n (ascii "a") := by
    induction n with
    | zero => exact fun st _ => (List.append_nil _).symm
    | succ n ih =>
      intro st hsect
      have hcall : valuesOf [⟨ascii "credential", ascii "token", ascii "a", st.lineno + 1⟩] = [ascii "a"] := rfl
      have hline : valuesOf (parseLine note st tokenLine).user = valuesOf st.user ++ [ascii "a"] := by
        rw [parseLine_tokenLine, ← hcall, ← hsect]
        simp only [State.call, note, valuesOf, List.filter_append, List.map_append]
      have hsame : (parseLine note st tokenLine).sect = ascii "credential" := by
        rw [parseLine_tokenLine]
        exact hsect
      rw [List.replicate_succ, List.foldl_cons, ih _ hsame, hline, List.append_assoc]
      rfl
  rw [fgetsLines_tokens]
  exact hrun _ rfl

lemma demand_tokens (n : ℕ) : demand (tokens n) = 2 * n := by
  have hneeded : needed (ascii "a") = 2 := rfl
  rw [demand, valuesOf_tokens, List.map_replicate, hneeded, List.sum_replicate_nat, Nat.mul_comm]

/-- Setting it is never an error. -/
lemma exec_tokens (n : ℕ) (ctx : ParseStruct) : (iniParseFile parserHandler (tokens n) ctx).user.exec = ctx.exec := by
  have hrun : ∀ st : State ParseStruct, st.sect = ascii "credential" →
      ((List.replicate n tokenLine).foldl (parseLine parserHandler) st).user.exec = st.user.exec := by
    induction n with
    | zero => exact fun _ _ => rfl
    | succ n ih =>
      intro st hsect
      have hsame : (parseLine parserHandler st tokenLine).sect = ascii "credential" := by
        rw [parseLine_tokenLine]
        exact hsect
      rw [List.replicate_succ, List.foldl_cons, ih _ hsame, parseLine_tokenLine]
      simp only [State.call]
      rw [hsect]
      rfl
  rw [iniParseFile, fgetsLines_tokens]
  exact hrun _ rfl

lemma tokens_parsed {n : ℕ} (cfg : GwbotCfg) (arena : Arena) (hopen : fopen (c :: name) = .ok (tokens n)) :
    (gwbotCfgParse (some (c :: name)) fopen cfg arena).1 = 0 := by
  rw [gwbotCfgParse_ret cfg arena hopen, exec_tokens]
  rfl

/-- The arena is overrun, and the parsing goes well. -/
theorem tokens_overrun :
    let cfg : GwbotCfg := ⟨none, none, 0, 0, 0, ⟨none, none, none, none, 0, none⟩, false⟩
    let parsed := gwbotCfgParse (some [97]) (fun _ => .ok (tokens 2049)) cfg (arInit (Buf.fresh fun _ => 0) 4096)
    parsed.1 = 0 ∧ (∃ b ∈ parsed.2.2.blocks, 4096 < b.1 + (b.2.length + 1)) ∧
      ¬ ArenaSafe parsed.2.2 (valuesOf (callsOf (fgetsLines [] (tokens 2049)))) := by
  intro cfg parsed
  have hparsed : parsed.1 = 0 := tokens_parsed cfg _ rfl
  have hfull : 4096 < demand (tokens 2049) := by
    rw [demand_tokens]
    decide
  have harena : parsed.2.2 = arenaAfter (fun _ => 0) cfg (fgetsLines [] (tokens 2049)) :=
    gwbotCfgParse_arena _ cfg rfl
  have hout : ∃ b ∈ parsed.2.2.blocks, 4096 < b.1 + (b.2.length + 1) := by
    rw [harena]
    exact outside_of_demand _ cfg hfull
  refine ⟨hparsed, hout, fun hsafe => ?_⟩
  obtain ⟨b, hb, hlast⟩ := hout
  have hin := hsafe.inside b hb
  rw [harena, arenaAfter_eq, size_dupAll] at hin
  exact absurd hlast (Nat.not_lt.mpr hin)

end GNUWeebBot.Proofs
