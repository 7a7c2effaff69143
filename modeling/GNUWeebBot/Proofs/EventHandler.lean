import GNUWeebBot.Proofs.Debug
import GNUWeebBot.Proofs.Keywords
import GNUWeebBot.Proofs.Privilege
import GNUWeebBot.Proofs.TranslateReply

/-!
# The event handler

At most one module takes an event, so the order of the table does not matter. What is sent for a packet is the work of one
module, and it moderates only for a privileged sender.
-/

namespace GNUWeebBot.Proofs

open Fill Dispatch

/-! ### No text is for two modules -/

def IsDebug (evt : TgevText Tgev) : Prop := ∃ text, evt.text = some text ∧ ascii "/debug" <+: cString text

/-- A command of the translate module, also where there is nothing to translate. -/
def IsTranslation (evt : TgevText Tgev) : Prop := ∃ text args, evt.text = some text ∧ Translate.Command (cString text) args

/-- A mention of the admins or a keyword. -/
def IsAdmin (evt : TgevText Tgev) : Prop := ∃ text, evt.text = some text ∧ (parseCommand (cString text)).isSome

lemma parseCommand_isSome {text : List UInt8} (h : (parseCommand text).isSome) :
    (∃ rest, text = 64 :: rest) ∨
      ∃ mark word rest, text = mark :: (word ++ rest) ∧ mark ∈ ascii "!/.~" ∧ ∃ k ∈ keywords, word.map toLower = ascii k.1 := by
  obtain ⟨⟨cmd, reason, mention⟩, hparse⟩ := Option.isSome_iff_exists.mp h
  cases mention with
  | false =>
    right
    obtain ⟨hrecognised, -⟩ := parseCommand_iff.mp hparse
    cases hrecognised with
    | @mk mark word rest keyword _ _ hmark hkeyword hlower _ =>
      exact ⟨mark, word, rest, rfl, hmark, (keyword, cmd), hkeyword, hlower⟩
  | true =>
    left
    cases text with
    | nil => cases hparse
    | cons c rest =>
      by_cases hc : c = 64
      · exact ⟨rest, by rw [hc]⟩
      · by_cases hmark : c ∈ ascii "!/.~"
        · rw [parseCommand_mark hmark] at hparse
          split at hparse
          · cases hparse
          · split at hparse
            · cases hparse
            · split at hparse
              · cases hparse
              · split at hparse <;> cases hparse
        · rw [parseCommand_no_mark hmark, isAnAdminMention_of_ne hc] at hparse
          cases hparse

/-- The first two letters of a command of the translate module. -/
lemma isName_letters {name : List UInt8} (h : Translate.IsName name) :
    (∃ t r, name = [t, r] ∧ t ∈ ascii "tT" ∧ r ∈ ascii "rRlL") ∨
      ∃ mark t r, name = [mark, t, r] ∧ mark ∈ ascii "!./~" ∧ t ∈ ascii "tT" ∧ r ∈ ascii "rRlL" := by
  cases h with
  | plain ht hr => exact Or.inl ⟨_, _, rfl, ht, hr⟩
  | marked hmark ht hr => exact Or.inr ⟨_, _, _, rfl, hmark, ht, hr⟩

lemma not_debug_of_translation {text : List UInt8} {args : Translate.Args} (h : Translate.Command text args) :
    ¬ascii "/debug" <+: text := by
  obtain ⟨name, rest, rfl, hname, -⟩ := h
  rintro ⟨tail, htext⟩
  have hslash : (47 : UInt8) ∉ ascii "tT" := by decide
  have hd : (100 : UInt8) ∉ ascii "tT" := by decide
  rcases isName_letters hname with ⟨t, r, rfl, ht, -⟩ | ⟨mark, t, r, rfl, -, ht, -⟩
  · have hfirst : [(47 : UInt8)] = [t] := congrArg (List.take 1) htext
    rw [List.singleton_inj] at hfirst
    exact hslash (hfirst ▸ ht)
  · have hfirst : [(47 : UInt8), 100] = [mark, t] := congrArg (List.take 2) htext
    rw [List.cons.injEq, List.singleton_inj] at hfirst
    exact hd (hfirst.2 ▸ ht)

/-- No keyword starts with these letters. -/
lemma keyword_letters : ∀ k ∈ keywords, ∃ a b c rest, ascii k.1 = a :: b :: c :: rest ∧
    ¬(a = 116 ∧ (b = 114 ∨ b = 108)) ∧ ¬(a = 100 ∧ b = 101 ∧ c = 98) := by
  have hall : ∀ k ∈ keywords, ascii k.1 = (ascii k.1).getD 0 0 :: (ascii k.1).getD 1 0 :: (ascii k.1).getD 2 0 :: (ascii k.1).drop 3 ∧
      ¬((ascii k.1).getD 0 0 = 116 ∧ ((ascii k.1).getD 1 0 = 114 ∨ (ascii k.1).getD 1 0 = 108)) ∧
      ¬((ascii k.1).getD 0 0 = 100 ∧ (ascii k.1).getD 1 0 = 101 ∧ (ascii k.1).getD 2 0 = 98) := by decide
  exact fun k hk => ⟨_, _, _, _, hall k hk⟩

/-- The letters of a word that is a keyword. -/
lemma word_letters {word : List UInt8} {k : String × ModCmd} (hk : k ∈ keywords) (hlower : word.map toLower = ascii k.1) :
    ∃ a b c rest, word = a :: b :: c :: rest ∧ ¬(toLower a = 116 ∧ (toLower b = 114 ∨ toLower b = 108)) ∧
      ¬(toLower a = 100 ∧ toLower b = 101 ∧ toLower c = 98) := by
  obtain ⟨a', b', c', rest', hkeyword, htr, hdeb⟩ := keyword_letters k hk
  rw [hkeyword] at hlower
  obtain ⟨a, w₁, rfl, rfl, h₁⟩ := List.map_eq_cons_iff.mp hlower
  obtain ⟨b, w₂, rfl, rfl, h₂⟩ := List.map_eq_cons_iff.mp h₁
  obtain ⟨c, w₃, rfl, rfl, -⟩ := List.map_eq_cons_iff.mp h₂
  exact ⟨a, b, c, w₃, rfl, htr, hdeb⟩

lemma not_debug_of_admin {text : List UInt8} (h : (parseCommand text).isSome) : ¬ascii "/debug" <+: text := by
  rintro ⟨tail, htext⟩
  rcases parseCommand_isSome h with ⟨rest, rfl⟩ | ⟨mark, word, rest, rfl, -, k, hk, hlower⟩
  · cases htext
  · obtain ⟨a, b, c, w, rfl, -, hdeb⟩ := word_letters hk hlower
    apply hdeb
    have hletters : [(47 : UInt8), 100, 101, 98] = [mark, a, b, c] := congrArg (List.take 4) htext
    simp only [List.cons.injEq, and_true] at hletters
    obtain ⟨-, rfl, rfl, rfl⟩ := hletters
    decide

lemma not_translation_of_admin {text : List UInt8} {args : Translate.Args} (h : (parseCommand text).isSome) :
    ¬Translate.Command text args := by
  rintro ⟨name, tail, htext, hname, -⟩
  have hlow : ∀ t ∈ ascii "tT", toLower t = 116 := FormUrl.forall_mem_of_all (by decide)
  have hlow' : ∀ r ∈ ascii "rRlL", toLower r = 114 ∨ toLower r = 108 := FormUrl.forall_mem_of_all (by decide)
  have hat : (64 : UInt8) ∉ ascii "tT" := by decide
  have hat' : (64 : UInt8) ∉ ascii "!./~" := by decide
  have hmarks : ∀ mark ∈ ascii "!/.~", mark ∉ ascii "tT" := FormUrl.forall_mem_of_all (by decide)
  rcases parseCommand_isSome h with ⟨rest, rfl⟩ | ⟨mark, word, rest, rfl, hmark, k, hk, hlower⟩
  · rcases isName_letters hname with ⟨t, r, rfl, ht, -⟩ | ⟨mark, t, r, rfl, hmark, -, -⟩
    · exact hat ((List.cons.inj htext).1 ▸ ht)
    · exact hat' ((List.cons.inj htext).1 ▸ hmark)
  · obtain ⟨a, b, c, w, rfl, htr, -⟩ := word_letters hk hlower
    rcases isName_letters hname with ⟨t, r, rfl, ht, -⟩ | ⟨mark', t, r, rfl, -, ht, hr⟩
    · exact hmarks mark hmark ((List.cons.inj htext).1 ▸ ht)
    · have hletters : [mark, a, b] = [mark', t, r] := congrArg (List.take 3) htext
      simp only [List.cons.injEq, and_true] at hletters
      rw [hletters.2.1, hletters.2.2] at htr
      exact htr ⟨hlow _ ht, hlow' _ hr⟩

/-! ### The modules pass what is not for them -/

section Modules

variable (jsonTokenerParse : List UInt8 → Json) (jsonStr : List UInt8) {evt : TgevText Tgev}

lemma passes_debug (h : ¬IsDebug evt) : Passes (-ECANCELED) (Debug.entry jsonTokenerParse jsonStr evt) := by
  intro w
  unfold Debug.entry
  cases htext : evt.text with
  | none => rfl
  | some text =>
    have hstarts : (ascii "/debug").isPrefixOf (cString text) = false := by
      by_contra hstarts
      rw [Bool.not_eq_false, List.isPrefixOf_iff_prefix] at hstarts
      exact h ⟨text, htext, hstarts⟩
    simp only [hstarts, Bool.not_false, if_true]
    rfl

lemma passes_standard : Passes (-ECANCELED) (standardEntry evt) := fun _ => rfl

lemma passes_translate (h : ¬IsTranslation evt) : Passes (-ECANCELED) (Translate.doTranslate jsonTokenerParse evt) := by
  intro w
  cases htext : evt.text with
  | none =>
    unfold Translate.doTranslate
    rw [htext]
    rfl
  | some text =>
    apply Translate.doTranslate_of_cancels htext
    apply Translate.parseCommand_cancels (Buf.within_fresh _ _)
    rintro ⟨-, args, hcommand⟩
    exact h ⟨text, args, htext, hcommand⟩

lemma passes_admin (h : ¬IsAdmin evt) : Passes (-ECANCELED) (adminModuleEntry evt) := by
  have hpure : adminEntry evt = pure (-ECANCELED) := by
    unfold adminEntry
    cases htext : evt.text with
    | none => rfl
    | some text =>
      have hparse : parseCommand (cString text) = none := by
        rw [← Option.not_isSome_iff_eq_none]
        exact fun hsome => h ⟨text, htext, hsome⟩
      dsimp only
      rw [hparse]
  intro w
  unfold adminModuleEntry part
  rw [hpure]
  change Outcome.next (-ECANCELED) (BotWorld.addCalls _ w) = _
  rw [BotWorld.addCalls, BotWorld.toWorld, List.map_nil, List.append_nil]

/-- Every event is for at most one of the modules. -/
lemma isDebug_apart (h : IsDebug evt) : ¬IsTranslation evt ∧ ¬IsAdmin evt := by
  obtain ⟨text, htext, hstarts⟩ := h
  constructor
  · rintro ⟨text', args, htext', hcommand⟩
    cases htext.symm.trans htext'
    exact not_debug_of_translation hcommand hstarts
  · rintro ⟨text', htext', hparse⟩
    cases htext.symm.trans htext'
    exact not_debug_of_admin hparse hstarts

lemma isTranslation_apart (h : IsTranslation evt) : ¬IsAdmin evt := by
  obtain ⟨text, args, htext, hcommand⟩ := h
  rintro ⟨text', htext', hparse⟩
  cases htext.symm.trans htext'
  exact not_translation_of_admin hparse hcommand

variable (evt) in
/-- The entries in the order of the table. -/
def entries : List (Fill Fault BotWorld ℤ) :=
  [Debug.entry jsonTokenerParse jsonStr evt, standardEntry evt, Translate.doTranslate jsonTokenerParse evt, adminModuleEntry evt]

variable (evt) in
/-- What the loop runs for an event of a type. -/
def tried (evtIn : ℕ) (mods : List ModuleEntry) : List (Fill Fault BotWorld ℤ) :=
  (mods.filter (fun mod => mod.eventMask &&& evtIn != 0)).filterMap (fun mod => mod.entry.map (fun entry => entry evt))

variable (evt) in
lemma runModules_eq (evtIn : ℕ) (mods : List ModuleEntry) (ret : ℤ) :
    runModules evtIn evt mods ret = firstOf (-ECANCELED) (tried evt evtIn mods) ret := by
  induction mods generalizing ret with
  | nil => rfl
  | cons mod mods ih =>
    unfold tried at ih ⊢
    rw [runModules]
    by_cases hmask : mod.eventMask &&& evtIn = 0
    · rw [if_pos hmask, List.filter_cons_of_neg (by rw [hmask]; decide)]
      exact ih ret
    · rw [if_neg hmask, List.filter_cons_of_pos (by simpa using hmask)]
      cases hentry : mod.entry with
      | none =>
        rw [List.filterMap_cons_none (by rw [hentry]; rfl)]
        exact ih ret
      | some entry =>
        rw [List.filterMap_cons_some (by rw [hentry]; rfl), firstOf]
        dsimp only
        congr 1
        funext ret'
        rw [ih]

lemma tried_perm {evtIn : ℕ} {mods mods' : List ModuleEntry} (h : mods.Perm mods') :
    (tried evt evtIn mods).Perm (tried evt evtIn mods') :=
  (h.filter _).filterMap _

/-- The modules take texts and photos. -/
lemma tried_modTbl {evtIn : ℕ} (h : evtIn = TGEV_TEXT ∨ evtIn = TGEV_PHOTO) :
    tried evt evtIn (modTbl jsonTokenerParse jsonStr) = entries jsonTokenerParse jsonStr evt := by
  have hmask : ((TGEV_TEXT ||| TGEV_PHOTO) &&& evtIn != 0) = true := by
    rcases h with rfl | rfl <;> decide
  have hend : (0 &&& evtIn != 0) = false := by
    rw [Nat.zero_and]
    rfl
  simp only [tried, modTbl, gwmodRegEnd, List.filter_cons, hmask, hend, if_true, Bool.false_eq_true, if_false,
    List.filter_nil, List.filterMap_cons, Option.map_some, List.filterMap_nil]
  rfl

/-- No module takes an event of another type. -/
lemma runModules_of_other {evtIn : ℕ} (h : (TGEV_TEXT ||| TGEV_PHOTO) &&& evtIn = 0) :
    runModules evtIn evt (modTbl jsonTokenerParse jsonStr) 0 = pure 0 := by
  have hend : 0 &&& evtIn = 0 := Nat.zero_and evtIn
  simp only [modTbl, gwmodRegEnd, runModules, h, hend, if_true]

lemma entries_apart : (entries jsonTokenerParse jsonStr evt).Pairwise (Apart (-ECANCELED)) := by
  have hdebug : ∀ {h : Fill Fault BotWorld ℤ}, (IsDebug evt → Passes (-ECANCELED) h) →
      Apart (-ECANCELED) (Debug.entry jsonTokenerParse jsonStr evt) h := by
    intro h hpass
    by_cases hevt : IsDebug evt
    · exact Or.inr (hpass hevt)
    · exact Or.inl (passes_debug jsonTokenerParse jsonStr hevt)
  have htranslate : Apart (-ECANCELED) (Translate.doTranslate jsonTokenerParse evt) (adminModuleEntry evt) := by
    by_cases hevt : IsTranslation evt
    · exact Or.inr (passes_admin (isTranslation_apart hevt))
    · exact Or.inl (passes_translate jsonTokenerParse hevt)
  unfold entries
  simp only [List.pairwise_cons, List.forall_mem_cons, List.not_mem_nil, false_implies, implies_true, and_true,
    List.Pairwise.nil]
  refine ⟨⟨hdebug fun _ => passes_standard, hdebug fun h => passes_translate _ (isDebug_apart h).1,
    hdebug fun h => passes_admin (isDebug_apart h).2⟩, ⟨Or.inl passes_standard, Or.inl passes_standard⟩, htranslate⟩

/-- The module that an event is for. -/
lemma firstOf_entries (ret : ℤ) :
    (IsDebug evt → firstOf (-ECANCELED) (entries jsonTokenerParse jsonStr evt) ret = Debug.entry jsonTokenerParse jsonStr evt) ∧
    (IsTranslation evt → firstOf (-ECANCELED) (entries jsonTokenerParse jsonStr evt) ret =
      Translate.doTranslate jsonTokenerParse evt) ∧
    (¬IsDebug evt → ¬IsTranslation evt →
      firstOf (-ECANCELED) (entries jsonTokenerParse jsonStr evt) ret = adminModuleEntry evt) := by
  have hstandard : Passes (-ECANCELED) (standardEntry evt) := passes_standard
  refine ⟨fun h => ?_, fun h => ?_, fun hdebug htranslate => ?_⟩
  · obtain ⟨htranslate, hadmin⟩ := isDebug_apart h
    apply firstOf_of_only [] (fun g hg => absurd hg List.not_mem_nil)
    simp only [List.forall_mem_cons, List.not_mem_nil, false_implies, implies_true, and_true]
    exact ⟨hstandard, passes_translate _ htranslate, passes_admin hadmin⟩
  · have hdebug : ¬IsDebug evt := fun hdebug => (isDebug_apart hdebug).1 h
    apply firstOf_of_only [Debug.entry jsonTokenerParse jsonStr evt, standardEntry evt]
    · simp only [List.forall_mem_cons, List.not_mem_nil, false_implies, implies_true, and_true]
      exact ⟨passes_debug _ _ hdebug, hstandard⟩
    · simp only [List.forall_mem_cons, List.not_mem_nil, false_implies, implies_true, and_true]
      exact passes_admin (isTranslation_apart h)
  · apply firstOf_of_only [Debug.entry jsonTokenerParse jsonStr evt, standardEntry evt, Translate.doTranslate jsonTokenerParse evt]
    · simp only [List.forall_mem_cons, List.not_mem_nil, false_implies, implies_true, and_true]
      exact ⟨passes_debug _ _ hdebug, hstandard, passes_translate _ htranslate⟩
    · exact fun g hg => absurd hg List.not_mem_nil

end Modules

/-- Whatever order the table has, an event is given to the same module: the one it is for, or the admin module where it is
for none. -/
theorem one_module_takes_an_event (jsonTokenerParse : List UInt8 → Json) (jsonStr : List UInt8) (evt : TgevText Tgev)
    {evtIn : ℕ} (htype : evtIn = TGEV_TEXT ∨ evtIn = TGEV_PHOTO) {tbl : List ModuleEntry}
    (htbl : tbl.Perm (modTbl jsonTokenerParse jsonStr)) :
    let run := runModules evtIn evt tbl 0
    run = runModules evtIn evt (modTbl jsonTokenerParse jsonStr) 0 ∧
      (IsDebug evt → run = Debug.entry jsonTokenerParse jsonStr evt) ∧
      (IsTranslation evt → run = Translate.doTranslate jsonTokenerParse evt) ∧
      (¬IsDebug evt → ¬IsTranslation evt → run = adminModuleEntry evt) := by
  intro run
  have hsame : run = firstOf (-ECANCELED) (entries jsonTokenerParse jsonStr evt) 0 := by
    have hperm : (tried evt evtIn tbl).Perm (tried evt evtIn (modTbl jsonTokenerParse jsonStr)) := tried_perm htbl
    rw [tried_modTbl jsonTokenerParse jsonStr htype] at hperm
    calc run
      _ = firstOf (-ECANCELED) (tried evt evtIn tbl) 0 := runModules_eq evt evtIn tbl 0
      _ = firstOf (-ECANCELED) (entries jsonTokenerParse jsonStr evt) 0 :=
        (firstOf_perm hperm.symm (entries_apart jsonTokenerParse jsonStr) 0).symm
  rw [hsame, runModules_eq evt evtIn (modTbl jsonTokenerParse jsonStr), tried_modTbl jsonTokenerParse jsonStr htype]
  exact ⟨rfl, firstOf_entries jsonTokenerParse jsonStr 0⟩

/-- A ban, with the table the other way round. -/
theorem one_module_takes_an_event_reversed :
    (TGEV_TEXT = TGEV_TEXT ∨ TGEV_TEXT = TGEV_PHOTO) ∧
      runModules TGEV_TEXT { text := some (ascii "/ban") } (modTbl (fun _ => .null) []).reverse 0 =
        adminModuleEntry { text := some (ascii "/ban") } := by
  refine ⟨Or.inl rfl, ?_⟩
  have hparse : (parseCommand (cString (ascii "/ban"))).isSome = true := by decide
  have hall := one_module_takes_an_event (fun _ => .null) [] { text := some (ascii "/ban") } (Or.inl rfl)
    (List.reverse_perm (modTbl (fun _ => .null) []))
  apply hall.2.2.2
  · rintro ⟨text, htext, hstarts⟩
    cases htext
    exact not_debug_of_admin hparse hstarts
  · rintro ⟨text, args, htext, hcommand⟩
    cases htext
    exact not_translation_of_admin hparse hcommand

/-! ### What the bot sends -/

def apiCalls (log : List BotCall) : List (Request × Response) :=
  log.filterMap fun call =>
    match call with
    | .api request r => some (request, r)
    | _ => none

lemma apiCalls_map (calls : List (Request × Response)) : apiCalls (calls.map fun c => .api c.1 c.2) = calls := by
  induction calls with
  | nil => rfl
  | cons c calls ih => exact congrArg (List.cons c) ih

/-- Only calls of the API, or a translation with at most one message after it. -/
inductive OneModule : List BotCall → Prop
  | api (calls : List (Request × Response)) : OneModule (calls.map fun c => .api c.1 c.2)
  | unanswered (payload : List UInt8) : OneModule [.googleTranslate payload]
  | answered (payload : List UInt8) (chatId : ℤ) (msgId : ℕ) (text : List UInt8) (r : Response) :
    OneModule [.googleTranslate payload, .plainMessage chatId msgId text r]

/-- The work of one module on one event: its moderation requests are aimed at the replied-to message and come after the
sender was found to be privileged. -/
structure SafeSegment (evt : TgevText Tgev) (segment : List BotCall) : Prop where
  safe : SafeTrace evt (apiCalls segment)
  privileged : Privileged evt (apiCalls segment) ∨ NoModeration (apiCalls segment)
  oneModule : OneModule segment

/-- What is no moderation needs no privilege. -/
lemma safeSegment_of_quiet {evt : TgevText Tgev} {segment : List BotCall} (hquiet : NoModeration (apiCalls segment))
    (hone : OneModule segment) : SafeSegment evt segment where
  safe := by
    intro i request r hi hmod
    exact absurd hmod (hquiet _ (List.mem_of_getElem? hi))
  privileged := Or.inr hquiet
  oneModule := hone

/-- The calls of the world have grown by a segment, and nothing else has changed. -/
def Sends (evt : TgevText Tgev) (w w' : BotWorld) : Prop :=
  ∃ segment, w' = { w with calls := w.calls ++ segment } ∧ SafeSegment evt segment

lemma sends_nothing (evt : TgevText Tgev) (w : BotWorld) : Sends evt w w := by
  refine ⟨[], ?_, safeSegment_of_quiet (fun c hc => absurd hc List.not_mem_nil) (.api [])⟩
  rw [List.append_nil]

section Segments

variable (jsonTokenerParse : List UInt8 → Json) (jsonStr : List UInt8) (evt : TgevText Tgev) (w : BotWorld)

lemma sends_debug : Sends evt w (final (Debug.entry jsonTokenerParse jsonStr evt) w) := by
  unfold Debug.entry
  cases htext : evt.text with
  | none => exact sends_nothing evt w
  | some text =>
    dsimp only
    split
    · exact sends_nothing evt w
    · refine ⟨_, rfl, safeSegment_of_quiet ?_ (.api [(_, _)])⟩
      intro c hc
      rw [List.mem_singleton.mp hc]
      exact not_false

lemma sends_translate : Sends evt w (final (Translate.doTranslate jsonTokenerParse evt) w) := by
  by_cases hasks : ∃ args subject text, Translate.Asks evt args subject text
  · obtain ⟨args, subject, text, hasks⟩ := hasks
    obtain ⟨payload, -, hrun⟩ := Translate.doTranslate_of_asks jsonTokenerParse hasks w
    rw [final_of_next hrun]
    unfold Translate.answered
    dsimp only
    split
    · exact ⟨_, rfl, safeSegment_of_quiet (fun c hc => absurd hc List.not_mem_nil) (.unanswered payload)⟩
    · split
      · rename_i fetched _ _
        dsimp only [BotWorld.called]
        rw [List.append_assoc]
        exact ⟨_, rfl, safeSegment_of_quiet (fun c hc => absurd hc List.not_mem_nil) (.answered payload _ _ _ _)⟩
      · exact ⟨_, rfl, safeSegment_of_quiet (fun c hc => absurd hc List.not_mem_nil) (.unanswered payload)⟩
  · rw [final_of_next (Translate.doTranslate_of_not_asks jsonTokenerParse hasks w)]
    exact sends_nothing evt w

lemma final_part {ε σ τ α : Type} (view : σ → τ) (put : τ → σ → σ) (m : Fill ε τ α) (s : σ) :
    final (part view put m) s = put (final m (view s)) s := by
  unfold final part
  cases m (view s) <;> rfl

lemma sends_admin : Sends evt w (final (adminModuleEntry evt) w) := by
  rw [adminModuleEntry, final_part]
  have hsafe : SafeTrace evt (final (adminEntry evt) w.toWorld).calls := by
    apply (keeps_adminEntry evt).final
    intro i request r hi
    simp [BotWorld.toWorld] at hi
  refine ⟨_, rfl, ?_, ?_, .api _⟩
  · rw [apiCalls_map]
    exact hsafe
  · rw [apiCalls_map]
    by_cases hpriv : Privileged evt (final (adminEntry evt) w.toWorld).calls
    · exact Or.inl hpriv
    · exact Or.inr (hsafe.none_of_not_privileged hpriv)

lemma sends_runModules {evtIn : ℕ} (htype : evtIn = TGEV_TEXT ∨ evtIn = TGEV_PHOTO) :
    Sends evt w (final (runModules evtIn evt (modTbl jsonTokenerParse jsonStr) 0) w) := by
  rw [runModules_eq, tried_modTbl jsonTokenerParse jsonStr htype]
  obtain ⟨hdebug, htranslate, hadmin⟩ := @firstOf_entries jsonTokenerParse jsonStr evt 0
  by_cases hisDebug : IsDebug evt
  · rw [hdebug hisDebug]
    exact sends_debug jsonTokenerParse jsonStr evt w
  · by_cases hisTranslation : IsTranslation evt
    · rw [htranslate hisTranslation]
      exact sends_translate jsonTokenerParse evt w
    · rw [hadmin hisDebug hisTranslation]
      exact sends_admin evt w

end Segments

/-! ### Packets -/

section Packets

variable (jsonTokenerParse : List UInt8 → Json) (tokener : List UInt8 → Option Json)
  (misread : TgevPhoto Tgev → Fill Fault BotWorld ℤ)

/-- The event that the modules get for a packet. -/
def eventOf (jsonStr : List UInt8) : Option (TgevText Tgev) :=
  match tgEventLoadStr tokener jsonStr with
  | .error _ => none
  | .ok (ret, evt) => if ret = 0 ∧ (evt.type = TGEV_TEXT ∨ evt.type = TGEV_PHOTO) then some evt.asText else none

/-- No photo with entities in its caption. -/
def WellRead (jsonStr : List UInt8) : Prop :=
  ∀ evt ephoto, tgEventLoadStr tokener jsonStr = .ok (0, evt) → evt.msg = .photo ephoto → ephoto.captionEntityC % 2 ^ 16 = 0

/-- What a packet adds to the calls: nothing where no module gets it. -/
def PacketSends (jsonStr : List UInt8) (segment : List BotCall) : Prop :=
  match eventOf tokener jsonStr with
  | none => segment = []
  | some evt => SafeSegment evt segment

variable {tokener} in
lemma gwbotEventHandler_sends {jsonStr : List UInt8} (hread : WellRead tokener jsonStr) (w : BotWorld) :
    ∃ segment, final (gwbotEventHandler jsonTokenerParse tokener misread jsonStr) w = { w with calls := w.calls ++ segment } ∧
      PacketSends tokener jsonStr segment := by
  have hnothing : w = { w with calls := w.calls ++ [] } := by rw [List.append_nil]
  unfold gwbotEventHandler PacketSends eventOf
  unfold WellRead at hread
  cases hload : tgEventLoadStr tokener jsonStr with
  | error e => exact ⟨[], hnothing, rfl⟩
  | ok r =>
    obtain ⟨ret, evt⟩ := r
    dsimp only
    by_cases hret : ret = 0
    · subst hret
      have hread := hread evt
      rw [if_neg (not_not_intro rfl)]
      cases hmsg : evt.msg with
      | text etext =>
        have htype : evt.type = TGEV_TEXT := by
          unfold Tgev.type
          rw [hmsg]
        obtain ⟨segment, hfinal, hsafe⟩ := sends_runModules jsonTokenerParse jsonStr evt.asText w (Or.inl htype)
        rw [if_pos ⟨rfl, Or.inl htype⟩]
        exact ⟨segment, hfinal, hsafe⟩
      | photo ephoto =>
        have htype : evt.type = TGEV_PHOTO := by
          unfold Tgev.type
          rw [hmsg]
        obtain ⟨segment, hfinal, hsafe⟩ := sends_runModules jsonTokenerParse jsonStr evt.asText w (Or.inr htype)
        dsimp only
        rw [if_neg (not_not_intro (hread ephoto hload hmsg)), if_pos ⟨rfl, Or.inr htype⟩]
        exact ⟨segment, hfinal, hsafe⟩
      | zeroed | sticker _ | gif _ | unknown _ =>
        have hmask : (TGEV_TEXT ||| TGEV_PHOTO) &&& evt.type = 0 := by
          unfold Tgev.type
          rw [hmsg]
          dsimp only
          decide
        have htype : ¬(evt.type = TGEV_TEXT ∨ evt.type = TGEV_PHOTO) := by
          rintro (htype | htype) <;> rw [htype] at hmask <;> exact absurd hmask (by decide)
        dsimp only
        rw [runModules_of_other jsonTokenerParse jsonStr hmask, if_neg (fun h => htype h.2)]
        exact ⟨[], hnothing, rfl⟩
    · rw [if_pos hret, if_neg (fun h => hret h.1)]
      exact ⟨[], hnothing, rfl⟩

end Packets

end GNUWeebBot.Proofs
