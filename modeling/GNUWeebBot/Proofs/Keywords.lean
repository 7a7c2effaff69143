import GNUWeebBot.Lib.Words
import GNUWeebBot.Proofs.AdminText
import Mathlib.Data.Bool.AllAny

/-!
# The keywords of the admin module

Which texts are commands. The keywords are tried in their order, so that `del` is found where the word
is `delvote`, and the `s` of `admins` is compared with the text itself and not with its copy in lower
case.
-/

namespace GNUWeebBot.Proofs

open Words

/-! ### Words in any case -/

lemma isWs_toLower (c : UInt8) : isWs (toLower c) = isWs c :=
  forall_byte (P := fun c => isWs (toLower c) = isWs c) (by decide +kernel) c

lemma toLower_eq_at (c : UInt8) : toLower c = 64 ↔ c = 64 :=
  forall_byte (P := fun c => toLower c = 64 ↔ c = 64) (by decide +kernel) c

/-- The word is ended by the end of the text or by white space. -/
def Ended (rest : List UInt8) : Prop := ∀ c ∈ rest.head?, isWs c = true

/-- What follows a word: nothing, or white space and the reason. -/
inductive Follows : List UInt8 → CharPtr → Prop
  | nothing : Follows [] none
  | reason {ws after : List UInt8} : ws ≠ [] → (∀ c ∈ ws, isWs c = true) → (∀ c ∈ after.head?, isWs c = false) →
    Follows (ws ++ after) (some after)

lemma Follows.ended {rest : List UInt8} {reason : CharPtr} (h : Follows rest reason) : Ended rest := by
  cases h with
  | nothing => exact fun c hc => nomatch hc
  | @reason ws after hne hws _ =>
    obtain ⟨c, ws, rfl⟩ := List.exists_cons_of_ne_nil hne
    intro d hd
    cases hd
    exact hws c List.mem_cons_self

/-- The reason is what the text has behind the white space. -/
lemma follows_iff {rest : List UInt8} {reason : CharPtr} :
    Follows rest reason ↔ Ended rest ∧ reason = if rest = [] then none else some (rest.dropWhile isWs) := by
  constructor
  · intro h
    refine ⟨h.ended, ?_⟩
    cases h with
    | nothing => rfl
    | @reason ws after hne hws hafter =>
      rw [if_neg (by simp [hne]), dropWhile_append hws hafter]
  · rintro ⟨hended, rfl⟩
    cases rest with
    | nil => exact .nothing
    | cons c rest =>
      obtain ⟨ws, hws, heq, hafter⟩ := exists_cut isWs (c :: rest)
      have hne : ws ≠ [] := by
        rintro rfl
        have hc := hafter c (by rw [List.nil_append] at heq; rw [← heq]; rfl)
        rw [hended c rfl] at hc
        cases hc
      have hall : Follows (ws ++ (c :: rest).dropWhile isWs) (some ((c :: rest).dropWhile isWs)) := .reason hne hws hafter
      rw [← heq] at hall
      exact hall

/-- A word ends where white space begins. -/
lemma wordOf_append {word rest : List UInt8} (hword : ∀ c ∈ word, isWs c = false) (hrest : Ended rest) :
    wordOf (word ++ rest) = word :=
  takeWhile_append (fun c hc => by simp [hword c hc]) (fun c hc => by simp [hrest c hc])

lemma wordOf_of_ended {rest : List UInt8} (hrest : Ended rest) : wordOf rest = [] :=
  @wordOf_append [] rest (fun _ hc => nomatch hc) hrest

lemma wordEnds_iff {rest : List UInt8} : wordEnds rest = true ↔ Ended rest := by
  cases rest with
  | nil => exact ⟨fun _ _ hc => (nomatch hc), fun _ => rfl⟩
  | cons c rest => simp [wordEnds, Ended]

lemma exists_word (text : List UInt8) : ∃ rest, text = wordOf text ++ rest ∧ Ended rest := by
  refine ⟨text.dropWhile (fun c => !isWs c), List.takeWhile_append_dropWhile.symm, ?_⟩
  intro c hc
  simpa using head?_dropWhile (fun c => !isWs c) text c hc

/-- The letters of a keyword are not white space. -/
lemma word_of_lower {word keyword : List UInt8} (hlower : word.map toLower = keyword)
    (hkeyword : ∀ c ∈ keyword, isWs c = false) : ∀ c ∈ word, isWs c = false := by
  intro c hc
  rw [← isWs_toLower]
  exact hkeyword _ (hlower ▸ List.mem_map_of_mem hc)

/-! ### The commands -/

/-- One of the prefix characters, a keyword in any case, and the reason. -/
inductive Recognised : List UInt8 → ModCmd → CharPtr → Prop
  | mk {mark : UInt8} {word rest : List UInt8} {keyword : String} {cmd : ModCmd} {reason : CharPtr} :
    mark ∈ ascii "!/.~" → (keyword, cmd) ∈ keywords → word.map toLower = ascii keyword → Follows rest reason →
    Recognised (mark :: (word ++ rest)) cmd reason

/-- The text is read as the grammar has it, without a read behind it or a write outside `yx`. -/
def RecognisesExactly (junk : ℕ → UInt8) (text : List UInt8) : Prop :=
  ∃ r yx, parseCommandAt text (Buf.fresh junk) = .next r yx ∧ yx.Within 10 ∧
    ∀ cmd reason, (∃ p, r = some (cmd, p, false) ∧ p.map text.drop = reason) ↔ Recognised text cmd reason

/-- A prefix character and the word `delvote`. -/
def IsDelvote (text : List UInt8) : Prop :=
  ∃ mark ∈ ascii "!/.~", ∃ word rest, text = mark :: (word ++ rest) ∧ word.map toLower = ascii "delvote" ∧ Ended rest

lemma isWs_keyword : ∀ k ∈ keywords, ∀ c ∈ ascii k.1, isWs c = false := by
  have hall : ∀ k ∈ keywords, (ascii k.1).all (fun c => decide (isWs c = false)) = true := by decide
  exact fun k hk => List.all_iff_forall_prop.mp (hall k hk)

lemma length_keyword : ∀ k ∈ keywords, (ascii k.1).length ≤ 8 := by decide

/-- `del` comes before `delvote`. -/
lemma find_keyword : ∀ k ∈ keywords,
    keywords.find? (fun k' => (ascii k'.1).isPrefixOf (ascii k.1)) = if k.2 = .delvote then some ("del", .delete) else some k := by
  decide

/-- Without a prefix character only the mention of the admins is a command. -/
lemma parseCommand_no_mark {c : UInt8} (hmark : c ∉ ascii "!/.~") (tx : List UInt8) :
    parseCommand (c :: tx) = if isAnAdminMention (c :: tx) then some (.report, none, true) else none := by
  have hnot : c ≠ 33 ∧ c ≠ 47 ∧ c ≠ 46 ∧ c ≠ 126 :=
    forall_byte (P := fun c => c ∉ ascii "!/.~" → c ≠ 33 ∧ c ≠ 47 ∧ c ≠ 46 ∧ c ≠ 126) (by decide +kernel) c hmark
  exact if_pos hnot

section Commands

variable {mark : UInt8} (hmark : mark ∈ ascii "!/.~") {word rest : List UInt8} (hrest : Ended rest)

include hmark

lemma parseCommand_mark (tx : List UInt8) :
    parseCommand (mark :: tx) =
      match strtolowerCp tx 9 with
      | none => none
      | some yx =>
        match keywords.find? (fun k => (ascii k.1).isPrefixOf yx) with
        | none => none
        | some (keyword, cmd) =>
          match tx.drop keyword.length with
          | [] => some (cmd, none, false)
          | c :: after => if !isWs c then none else some (cmd, some ((c :: after).dropWhile isWs), false) := by
  have hnot : ¬(mark ≠ 33 ∧ mark ≠ 47 ∧ mark ≠ 46 ∧ mark ≠ 126) :=
    forall_byte (P := fun c => c ∈ ascii "!/.~" → ¬(c ≠ 33 ∧ c ≠ 47 ∧ c ≠ 46 ∧ c ≠ 126)) (by decide +kernel) mark hmark
  unfold parseCommand
  exact if_neg hnot

include hrest

/-- A word that is a keyword. -/
lemma parseCommand_keyword (hword : ∀ c ∈ word, isWs c = false) (hlen : word.length ≤ 8) {keyword : String} {cmd : ModCmd}
    (hfind : keywords.find? (fun k => (ascii k.1).isPrefixOf (word.map toLower)) = some (keyword, cmd))
    (hlower : word.map toLower = ascii keyword) :
    parseCommand (mark :: (word ++ rest)) =
      some (cmd, if rest = [] then none else some (rest.dropWhile isWs), false) := by
  have hsame : keyword.length = word.length := by
    have hmap := congrArg List.length hlower
    rw [List.length_map, length_ascii] at hmap
    exact hmap.symm
  rw [parseCommand_mark hmark, strtolowerCp_eq, wordOf_append hword hrest, if_pos hlen]
  dsimp only
  rw [hfind]
  dsimp only
  rw [hsame, List.drop_left]
  cases rest with
  | nil => rfl
  | cons c rest =>
    have hc := hrest c rfl
    dsimp only
    rw [hc, if_neg (by decide), if_neg (List.cons_ne_nil _ _)]

/-- A command that is found is the one of the whole word. -/
lemma parseCommand_some (hword : ∀ c ∈ word, isWs c = false) {cmd : ModCmd} {reason : CharPtr} {mention : Bool}
    (h : parseCommand (mark :: (word ++ rest)) = some (cmd, reason, mention)) :
    ∃ keyword, (keyword, cmd) ∈ keywords ∧ word.map toLower = ascii keyword ∧ Follows rest reason ∧
      keywords.find? (fun k => (ascii k.1).isPrefixOf (word.map toLower)) = some (keyword, cmd) := by
  have hrun := h
  rw [parseCommand_mark hmark, strtolowerCp_eq, wordOf_append hword hrest] at h
  by_cases hlen : word.length ≤ 8
  · rw [if_pos hlen] at h
    dsimp only at h
    cases hfind : keywords.find? (fun k => (ascii k.1).isPrefixOf (word.map toLower)) with
    | none =>
      rw [hfind] at h
      cases h
    | some k =>
      obtain ⟨keyword, found⟩ := k
      have hmatch := List.find?_some hfind
      have hstart := List.isPrefixOf_iff_prefix.mp hmatch
      have hlength := length_ascii keyword
      have hle := hstart.length_le
      rw [List.length_map, hlength] at hle
      rw [hfind] at h
      dsimp only at h
      rw [List.drop_append_of_le_length hle] at h
      rcases Nat.eq_or_lt_of_le hle with heq | hlt
      · have hlower : word.map toLower = ascii keyword :=
          (hstart.eq_of_length (by rw [hlength, heq, List.length_map])).symm
        rw [parseCommand_keyword hmark hrest hword hlen hfind hlower] at hrun
        cases hrun
        exact ⟨keyword, List.mem_of_find?_eq_some hfind, hlower, follows_iff.mpr ⟨hrest, rfl⟩, rfl⟩
      · -- a letter of the word follows the keyword
        rw [List.drop_eq_getElem_cons hlt, List.cons_append] at h
        dsimp only at h
        rw [hword _ (List.getElem_mem hlt), if_pos (by decide)] at h
        cases h
  · rw [if_neg hlen] at h
    cases h

end Commands

/-- A keyword other than `delvote` selects its command. -/
lemma parseCommand_iff {text : List UInt8} {cmd : ModCmd} {reason : CharPtr} :
    parseCommand text = some (cmd, reason, false) ↔ Recognised text cmd reason ∧ cmd ≠ .delvote := by
  constructor
  · intro h
    cases text with
    | nil => cases h
    | cons mark tx =>
      by_cases hmark : mark ∈ ascii "!/.~"
      · obtain ⟨rest, htx, hrest⟩ := exists_word tx
        have hword : ∀ c ∈ wordOf tx, isWs c = false := fun c hc => by simpa using List.mem_takeWhile_imp hc
        rw [htx] at h ⊢
        obtain ⟨keyword, hkeyword, hlower, hfollows, hfind⟩ := parseCommand_some hmark hrest hword h
        refine ⟨.mk hmark hkeyword hlower hfollows, ?_⟩
        rintro rfl
        rw [hlower, find_keyword _ hkeyword, if_pos rfl] at hfind
        cases hfind
      · rw [parseCommand_no_mark hmark] at h
        split at h <;> cases h
  · rintro ⟨hrecognised, hne⟩
    cases hrecognised with
    | @mk mark word rest keyword cmd reason hmark hkeyword hlower hfollows =>
      have hword := word_of_lower hlower (isWs_keyword _ hkeyword)
      have hlen : word.length ≤ 8 := by
        have hle := length_keyword _ hkeyword
        rwa [← hlower, List.length_map] at hle
      have hfind := find_keyword _ hkeyword
      rw [if_neg hne, ← hlower] at hfind
      obtain ⟨hrest, hreason⟩ := follows_iff.mp hfollows
      rw [parseCommand_keyword hmark hrest hword hlen hfind hlower, hreason]

/-- The grammar has a reason for each word that has ended. -/
lemma exists_follows {rest : List UInt8} (h : Ended rest) : ∃ reason, Follows rest reason :=
  ⟨_, follows_iff.mpr ⟨h, rfl⟩⟩

lemma isDelvote_iff {text : List UInt8} : IsDelvote text ↔ ∃ reason, Recognised text .delvote reason := by
  have honly : ∀ k ∈ keywords, k.2 = .delvote → k.1 = "delvote" := by decide
  constructor
  · rintro ⟨mark, hmark, word, rest, rfl, hlower, hrest⟩
    obtain ⟨reason, hfollows⟩ := exists_follows hrest
    exact ⟨reason, .mk hmark (by decide) hlower hfollows⟩
  · rintro ⟨reason, hrecognised⟩
    cases hrecognised with
    | @mk mark word rest keyword _ _ hmark hkeyword hlower hfollows =>
      obtain rfl := honly _ hkeyword rfl
      exact ⟨mark, hmark, word, rest, rfl, hlower, hfollows.ended⟩

lemma recognisesExactly_iff (junk : ℕ → UInt8) {text : List UInt8} (hzero : 0 ∉ text) :
    RecognisesExactly junk text ↔ ∀ reason, ¬Recognised text .delvote reason := by
  obtain ⟨r, yx, hrun, hin, hparse⟩ := parseCommandAt_spec hzero (Buf.within_fresh junk 10)
  have hselect : ∀ cmd reason, (∃ p, r = some (cmd, p, false) ∧ p.map text.drop = reason) ↔
      parseCommand text = some (cmd, reason, false) := by
    intro cmd reason
    rw [hparse]
    constructor
    · rintro ⟨p, rfl, rfl⟩
      rfl
    · intro h
      rw [Option.map_eq_some_iff] at h
      obtain ⟨⟨cmd', p, mention⟩, rfl, heq⟩ := h
      cases heq
      exact ⟨p, rfl, rfl⟩
  constructor
  · rintro ⟨r', yx', hrun', -, hexact⟩ reason hdelvote
    rw [hrun] at hrun'
    cases hrun'
    have hparsed := (hselect _ _).mp ((hexact _ _).mpr hdelvote)
    exact (parseCommand_iff.mp hparsed).2 rfl
  · intro hnot
    refine ⟨r, yx, hrun, hin, fun cmd reason => ?_⟩
    rw [hselect, parseCommand_iff]
    constructor
    · exact fun h => h.1
    · rintro h
      refine ⟨h, ?_⟩
      rintro rfl
      exact hnot reason h

/-- All keywords are recognised as the grammar has them, except that no text selects `delvote`. -/
theorem commands_recognised_iff (junk : ℕ → UInt8) (text : List UInt8) (hzero : 0 ∉ text) :
    RecognisesExactly junk text ↔ ¬IsDelvote text := by
  rw [recognisesExactly_iff junk hzero, isDelvote_iff, not_exists]

theorem commands_recognised_ban : 0 ∉ ascii "/ban  spam" ∧ RecognisesExactly (fun _ => 255) (ascii "/ban  spam") := by
  refine ⟨by decide, (commands_recognised_iff _ _ (by decide)).mpr ?_⟩
  rintro ⟨mark, -, word, rest, htext, hlower, -⟩
  have htail : ascii "ban  spam" = word ++ rest := (List.cons.inj htext).2
  have hlow := congrArg (fun t => (t.map toLower).take 7) htail
  rw [List.map_append, hlower, List.take_left' (show (ascii "delvote").length = 7 from rfl)] at hlow
  exact absurd hlow (by decide)

/-- The text is read as `del` with a letter behind it. -/
theorem delvote_not_recognised : ¬RecognisesExactly (fun _ => 255) (ascii "/delvote") ∧
    parseCommand (ascii "/delvote") = none := by
  refine ⟨?_, by decide⟩
  rw [recognisesExactly_iff _ (by decide)]
  intro hnot
  obtain ⟨reason, hrecognised⟩ := isDelvote_iff.mp
    ⟨47, by decide, ascii "delvote", [], rfl, by decide, fun c hc => nomatch hc⟩
  exact hnot reason hrecognised

/-! ### The mention -/

/-- `@` and a word that is `w` in lower case. -/
def Spells (w text : List UInt8) : Prop :=
  ∃ word rest, text = 64 :: (word ++ rest) ∧ word.map toLower = w ∧ Ended rest

/-- A mention of the admins, in any case. -/
def Mention (text : List UInt8) : Prop := Spells (ascii "admin") text ∨ Spells (ascii "admins") text

/-- The plural with a capital `S`. -/
def CapitalPlural (text : List UInt8) : Prop :=
  ∃ word rest, text = 64 :: (word ++ 83 :: rest) ∧ word.map toLower = ascii "admin" ∧ Ended rest

/-- The text is recognised exactly if it is a mention, and so is it in any other case. -/
structure MentionExact (text : List UInt8) : Prop where
  recognised : isAnAdminMention text = true ↔ Mention text
  caseless : ∀ other, other.map toLower = text.map toLower → isAnAdminMention other = isAnAdminMention text

lemma ended_map_toLower {rest : List UInt8} : Ended (rest.map toLower) ↔ Ended rest := by
  cases rest with
  | nil => exact Iff.rfl
  | cons c rest => simp [Ended, isWs_toLower]

/-- It does not depend on the case of the text. -/
lemma spells_iff {w text : List UInt8} : Spells w text ↔ ∃ rest, text.map toLower = 64 :: (w ++ rest) ∧ Ended rest := by
  constructor
  · rintro ⟨word, rest, rfl, rfl, hrest⟩
    exact ⟨rest.map toLower, by rw [List.map_cons, List.map_append]; rfl, ended_map_toLower.mpr hrest⟩
  · rintro ⟨rest, htext, hrest⟩
    obtain ⟨c, tail, rfl, hc, htail⟩ := List.map_eq_cons_iff.mp htext
    obtain ⟨word, after, rfl, hword, rfl⟩ := List.map_eq_append_iff.mp htail
    rw [toLower_eq_at] at hc
    exact ⟨word, after, by rw [hc], hword, ended_map_toLower.mp hrest⟩

lemma spells_congr {w text other : List UInt8} (h : other.map toLower = text.map toLower) : Spells w other ↔ Spells w text := by
  rw [spells_iff, spells_iff, h]

section Mention

variable {word after : List UInt8} (hadmin : word.map toLower = ascii "admin")

include hadmin

lemma length_admin : word.length = 5 := by
  have hlen := congrArg List.length hadmin
  rwa [List.length_map] at hlen

lemma spells_after (v : List UInt8) :
    Spells (ascii "admin" ++ v) (64 :: (word ++ after)) ↔ ∃ rest, after.map toLower = v ++ rest ∧ Ended rest := by
  have hmap : (64 :: (word ++ after)).map toLower = 64 :: (ascii "admin" ++ after.map toLower) := by
    rw [List.map_cons, List.map_append, hadmin]
    rfl
  rw [spells_iff, hmap]
  apply exists_congr
  intro rest
  rw [List.append_assoc, List.cons.injEq, List.append_cancel_left_eq]
  simp only [true_and]

lemma capitalPlural_after : CapitalPlural (64 :: (word ++ after)) ↔ ∃ rest, after = 83 :: rest ∧ Ended rest := by
  constructor
  · rintro ⟨word', rest, htext, hadmin', hrest⟩
    obtain ⟨-, rfl⟩ := List.append_inj (List.cons.inj htext).2 (by rw [length_admin hadmin, length_admin hadmin'])
    exact ⟨rest, rfl, hrest⟩
  · rintro ⟨rest, rfl, hrest⟩
    exact ⟨word, rest, rfl, hadmin, hrest⟩

/-- What may follow `admin`. -/
lemma isAnAdminMention_after :
    isAnAdminMention (64 :: (word ++ after)) = true ↔ Ended (if after.head? = some 115 then after.drop 1 else after) := by
  have hfive := length_admin hadmin
  have hwordOf : wordOf (word ++ after) = word ++ wordOf after :=
    List.takeWhile_append_of_pos (fun c hc => by simp [word_of_lower hadmin (List.all_iff_forall_prop.mp (by decide)) c hc])
  have hstart : (ascii "admin").isPrefixOf ((word ++ wordOf after).map toLower) = true := by
    rw [List.isPrefixOf_iff_prefix, List.map_append, hadmin]
    exact List.prefix_append _ _
  have hafter : afterAdmin (word ++ after) = if after.head? = some 115 then after.drop 1 else after := by
    have hsix : (word ++ after).drop 6 = after.drop 1 := by
      rw [show 6 = 5 + 1 from rfl, ← List.drop_drop, List.drop_left' hfive]
    unfold afterAdmin
    rw [hsix, List.drop_left' hfive]
  rw [isAnAdminMention_at, hwordOf, hstart, Bool.and_true, hafter, Bool.and_eq_true, decide_eq_true_eq, wordEnds_iff]
  refine and_iff_right_of_imp (fun hended => ?_)
  rw [List.length_append, hfive]
  cases after with
  | nil => decide
  | cons c rest =>
    by_cases hs : c = 115
    · rw [hs, List.head?_cons, if_pos rfl, List.drop_one, List.tail_cons] at hended
      rw [hs, wordOf_cons (by decide), wordOf_of_ended hended]
      decide
    · rw [List.head?_cons, if_neg (fun h => hs (Option.some.inj h))] at hended
      rw [wordOf_of_ended hended]
      decide

lemma mention_after :
    Mention (64 :: (word ++ after)) ↔ Ended after ∨ ∃ c rest, after = c :: rest ∧ toLower c = 115 ∧ Ended rest := by
  have hone : Spells (ascii "admin") (64 :: (word ++ after)) ↔ Ended after := by
    have hspells := @spells_after word after hadmin []
    rw [List.append_nil] at hspells
    rw [hspells, ← ended_map_toLower]
    simp
  have hmany : Spells (ascii "admins") (64 :: (word ++ after)) ↔
      ∃ c rest, after = c :: rest ∧ toLower c = 115 ∧ Ended rest := by
    refine (spells_after hadmin [115]).trans ?_
    constructor
    · rintro ⟨rest, hafter, hrest⟩
      obtain ⟨c, rest', rfl, hc, rfl⟩ := List.map_eq_cons_iff.mp hafter
      exact ⟨c, rest', rfl, hc, ended_map_toLower.mp hrest⟩
    · rintro ⟨c, rest, rfl, hc, hrest⟩
      exact ⟨rest.map toLower, by rw [List.map_cons, hc]; rfl, ended_map_toLower.mpr hrest⟩
  rw [Mention, hone, hmany]

end Mention

lemma Spells.exists_admin {v text : List UInt8} (h : Spells (ascii "admin" ++ v) text) :
    ∃ word after, text = 64 :: (word ++ after) ∧ word.map toLower = ascii "admin" := by
  obtain ⟨all, rest, rfl, hall, -⟩ := h
  obtain ⟨word, after, rfl, hadmin, -⟩ := List.map_eq_append_iff.mp hall
  exact ⟨word, after ++ rest, by rw [List.append_assoc], hadmin⟩

lemma exists_admin_of_mention {text : List UInt8} (h : isAnAdminMention text = true) :
    ∃ word after, text = 64 :: (word ++ after) ∧ word.map toLower = ascii "admin" := by
  cases text with
  | nil => cases h
  | cons c tx =>
    by_cases hat : c = 64
    · subst hat
      rw [isAnAdminMention_at, Bool.and_eq_true, Bool.and_eq_true, List.isPrefixOf_iff_prefix] at h
      obtain ⟨v, hv⟩ := h.1.2
      obtain ⟨rest, htx, -⟩ := exists_word tx
      obtain ⟨word, after, hword, hadmin, -⟩ := List.map_eq_append_iff.mp hv.symm
      rw [hword, List.append_assoc] at htx
      exact ⟨word, after ++ rest, by rw [htx], hadmin⟩
    · rw [isAnAdminMention_of_ne hat] at h
      cases h

/-- A capital `S` is not recognised. -/
lemma isAnAdminMention_iff (text : List UInt8) : isAnAdminMention text = true ↔ Mention text ∧ ¬CapitalPlural text := by
  by_cases hadmin : ∃ word after, text = 64 :: (word ++ after) ∧ word.map toLower = ascii "admin"
  · obtain ⟨word, after, rfl, hadmin⟩ := hadmin
    rw [isAnAdminMention_after hadmin, mention_after hadmin, capitalPlural_after hadmin]
    cases after with
    | nil => simp [Ended]
    | cons c rest =>
      by_cases hsmall : c = 115
      · have hws : isWs 115 = false := rfl
        have hlower : toLower 115 = 115 := rfl
        simp [hsmall, Ended, hws, hlower]
      · by_cases hcapital : c = 83
        · have hws : isWs 83 = false := rfl
          have hlower : toLower 83 = 115 := rfl
          simp [hcapital, Ended, hws, hlower]
        · have hlower : toLower c ≠ 115 :=
            forall_byte (P := fun c => c ≠ 115 → c ≠ 83 → toLower c ≠ 115) (by decide +kernel) c hsmall hcapital
          simp [hsmall, hcapital, hlower]
  · constructor
    · exact fun h => absurd (exists_admin_of_mention h) hadmin
    · rintro ⟨hone | hmany, -⟩
      · exact absurd (Spells.exists_admin (v := []) hone) hadmin
      · exact absurd (Spells.exists_admin (v := [115]) hmany) hadmin

lemma CapitalPlural.spells {text : List UInt8} (h : CapitalPlural text) : Spells (ascii "admins") text := by
  obtain ⟨word, rest, rfl, hadmin, hrest⟩ := h
  exact (spells_after hadmin [115]).mpr ⟨rest.map toLower, rfl, ended_map_toLower.mpr hrest⟩

/-- The singular is recognised in any case; of the plurals only those with a small `s`. -/
theorem admin_mention_iff (text : List UInt8) :
    (MentionExact text ↔ ¬Spells (ascii "admins") text) ∧
      ((isAnAdminMention text = true ↔ Mention text) ↔ ¬CapitalPlural text) := by
  have hmention : ∀ {other : List UInt8}, ¬Spells (ascii "admins") other → (isAnAdminMention other = true ↔ Mention other) :=
    fun hnot => (isAnAdminMention_iff _).trans (and_iff_left (fun hcapital => hnot hcapital.spells))
  refine ⟨⟨?_, fun hnot => ⟨hmention hnot, ?_⟩⟩, ?_⟩
  · rintro h ⟨word, rest, rfl, hlower, hrest⟩
    have hsmall : isAnAdminMention (64 :: (ascii "admin" ++ 115 :: rest)) = true := by
      rw [isAnAdminMention_after (by decide)]
      exact hrest
    have hcapital : isAnAdminMention (64 :: (ascii "admin" ++ 83 :: rest)) ≠ true := by
      rw [Ne, isAnAdminMention_after (by decide)]
      exact fun hended => absurd (hended 83 rfl) (by decide)
    have hcase : ∀ c, toLower c = 115 →
        (64 :: (ascii "admin" ++ c :: rest)).map toLower = (64 :: (word ++ rest)).map toLower := by
      intro c hc
      rw [List.map_cons, List.map_cons, List.map_append, List.map_append, hlower, List.map_cons, hc]
      rfl
    rw [h.caseless _ (hcase 83 rfl), ← h.caseless _ (hcase 115 rfl)] at hcapital
    exact hcapital hsmall
  · intro other hcase
    have hother : ¬Spells (ascii "admins") other := fun h => hnot ((spells_congr hcase).mp h)
    rw [Bool.eq_iff_iff, hmention hother, hmention hnot, Mention, Mention, spells_congr hcase, spells_congr hcase]
  · have himp : CapitalPlural text → Mention text := fun hcapital => Or.inr hcapital.spells
    rw [isAnAdminMention_iff]
    exact ⟨fun h hcapital => (h.mpr (himp hcapital)).2 hcapital, fun hnot => and_iff_left hnot⟩

/-- Only the case of one letter differs. -/
theorem capital_plural_not_recognised : ¬MentionExact (ascii "@adminS") ∧
    isAnAdminMention (ascii "@adminS") = false ∧ isAnAdminMention (ascii "@admins") = true := by
  refine ⟨?_, by decide, by decide⟩
  intro h
  have hcase := h.caseless (ascii "@admins") (by decide)
  exact absurd hcase (by decide)

end GNUWeebBot.Proofs
