import GNUWeebBot.Model.ChatAdmins
import Mathlib.Data.List.Forall2

/-!
# The administrators that are reported

The entries that `parse_tga_admins` fills are those of the well-formed elements, in their order, but it
reports as many as the array has elements: behind the filled entries there are zeroed ones.
-/

namespace GNUWeebBot.Proofs

open Fill

/-! ### The loop -/

/-- The entry at `j` is zeroed before it is filled. -/
lemma parseTgaMember_some {subres user id : Json} (huser : subres.getNonNull "user" = some user)
    (hid : user.getNonNull "id" = some id) : parseTgaMember subres = some (fillChatMember {} subres user id) := by
  unfold parseTgaMember fillChatMember
  rw [huser, Option.bind_eq_bind, Option.bind_some, hid, Option.bind_some, Option.pure_def]
  -- each key is there or not
  cases user.getNonNull "is_bot" <;> cases user.getNonNull "first_name" <;> cases user.getNonNull "username" <;>
    cases subres.getNonNull "status" <;> rcases user.getNonNull "lang" with - | lang <;> try rfl
  all_goals
    dsimp only [Option.bind_some]
    cases lang.getString <;> rfl

lemma parseTgaMember_none {subres : Json} (h : subres.getNonNull "user" = none ∨
    ∃ user, subres.getNonNull "user" = some user ∧ user.getNonNull "id" = none) : parseTgaMember subres = none := by
  unfold parseTgaMember
  rcases h with huser | ⟨user, huser, hid⟩
  · rw [huser]
    rfl
  · rw [huser, Option.bind_eq_bind, Option.bind_some, hid]
    rfl

/-- The entries before `j` stay, and those from it on are the members that were parsed. -/
lemma fillChatMembers_spec (elems : List Json) {admins : ℕ → TgaChatMember} {j : ℕ} (hfree : ∀ k, j ≤ k → admins k = {})
    (k : ℕ) :
    fillChatMembers elems admins j k = if k < j then admins k else (elems.filterMap parseTgaMember).getD (k - j) {} := by
  induction elems generalizing admins j with
  | nil =>
    rw [fillChatMembers, List.filterMap_nil, List.getD_nil]
    split
    · rfl
    · exact hfree k (by omega)
  | cons subres elems ih =>
    rw [fillChatMembers, List.filterMap_cons]
    cases huser : subres.getNonNull "user" with
    | none =>
      rw [parseTgaMember_none (.inl huser)]
      exact ih hfree
    | some user =>
      cases hid : user.getNonNull "id" with
      | none =>
        dsimp only
        rw [hid, parseTgaMember_none (.inr ⟨user, huser, hid⟩)]
        exact ih hfree
      | some id =>
        have hnext : ∀ k, j + 1 ≤ k →
            Function.update admins j (fillChatMember (admins j) subres user id) k = {} := by
          intro k hk
          rw [Function.update_of_ne (by omega)]
          exact hfree k (by omega)
        dsimp only
        rw [hid, parseTgaMember_some huser hid]
        dsimp only
        rw [ih hnext, hfree j (Nat.le_refl j)]
        rcases Nat.lt_trichotomy k j with hlt | rfl | hgt
        · rw [if_pos (by omega), if_pos hlt, Function.update_of_ne (by omega)]
        · rw [if_pos (Nat.lt_succ_self k), if_neg (Nat.lt_irrefl k), Function.update_self, Nat.sub_self, List.getD_cons_zero]
        · obtain ⟨d, rfl⟩ : ∃ d, k = j + 1 + d := ⟨k - (j + 1), by omega⟩
          rw [if_neg (by omega), if_neg (by omega), Nat.add_sub_cancel_left, Nat.add_assoc, Nat.add_sub_cancel_left,
            Nat.add_comm 1 d, List.getD_cons_succ]

/-- The members that were parsed, and zeroed entries up to the length of the array. -/
lemma entries_eq (elems : List Json) :
    ChatAdmins.entries ⟨fillChatMembers elems (fun _ => {}) 0, elems.length⟩ =
      elems.filterMap parseTgaMember ++
        List.replicate (elems.length - (elems.filterMap parseTgaMember).length) ({} : TgaChatMember) := by
  have hle := List.length_filterMap_le parseTgaMember elems
  apply List.ext_getElem
  · simp only [ChatAdmins.entries, List.length_map, List.length_range, List.length_append, List.length_replicate]
    omega
  · intro k hk _
    have hspec := @fillChatMembers_spec elems (fun _ => {}) 0 (fun _ _ => rfl) k
    rw [if_neg (Nat.not_lt_zero k), Nat.sub_zero] at hspec
    simp only [ChatAdmins.entries, List.getElem_map, List.getElem_range, hspec, List.getElem_append]
    split
    · rename_i hlt
      exact List.getD_eq_getElem _ _ hlt
    · rw [List.getD_eq_default _ _ (by omega), List.getElem_replicate]

/-- The array and the count are the members that `parseTgaAdmins` has. -/
theorem parseTgaAdminsArr_refines (obj : Json) (before : ChatAdmins) (members : List TgaChatMember) :
    parseTgaAdmins obj members =
      match parseTgaAdminsArr obj before with
      | .fault e _ => .fault e members
      | .ret code _ => .ret code members
      | .next _ out => .next () out.entries := by
  have hneed : ∀ {σ : Type} (a : Json) (code : ℤ) (s : σ), (need (some a) code : Fill Fault σ Json) s = .next a s :=
    fun _ _ _ => rfl
  unfold parseTgaAdmins parseTgaAdminsArr
  cases obj.getNonNull "ok" with
  | none => rfl
  | some ok =>
    rw [bind_of_next (hneed ok _ members), bind_of_next (hneed ok _ before)]
    cases ok.getBoolean with
    | false => rfl
    | true =>
      rw [if_neg (by decide), if_neg (by decide)]
      dsimp only
      cases obj.getNonNull "result" with
      | none => rfl
      | some res =>
        rw [bind_of_next (hneed res _ members), bind_of_next (hneed res _ before)]
        cases res.array? with
        | none => rfl
        | some elems => exact congrArg (Outcome.next ()) (entries_eq elems).symm

/-! ### The count -/

/-- The element is an object with a user object that has an id. -/
def isAdministrator (elem : Json) : Bool := ((elem.getNonNull "user").bind (fun user => user.getNonNull "id")).isSome

/-- The entry has the id, the names and the kind of the element's user. -/
def EntryOf (elem : Json) (entry : TgaChatMember) : Prop :=
  ∃ user id, elem.getNonNull "user" = some user ∧ user.getNonNull "id" = some id ∧
    entry.user.id = id.getUint64 ∧
    entry.user.isBot = ((user.getNonNull "is_bot").map Json.getBoolean).getD false ∧
    entry.user.firstName = (user.getNonNull "first_name").bind Json.getString ∧
    entry.user.username = (user.getNonNull "username").bind Json.getString

/-- The call returns zero, and the entries it reports are those of the well-formed elements in order. -/
def ReportsAdministrators (obj : Json) (elems : List Json) (before : ChatAdmins) : Prop :=
  ∃ out, parseTgaAdminsArr obj before = .next () out ∧ out.adminC = elems.countP isAdministrator ∧
    List.Forall₂ EntryOf (elems.filter isAdministrator) out.entries

lemma entryOf_parse {elem : Json} {entry : TgaChatMember} (h : parseTgaMember elem = some entry) : EntryOf elem entry := by
  unfold parseTgaMember at h
  simp only [Option.bind_eq_bind, Option.bind_eq_some_iff] at h
  obtain ⟨user, huser, id, hid, hentry⟩ := h
  cases hentry
  exact ⟨user, id, huser, hid, rfl, rfl, rfl, rfl⟩

lemma isAdministrator_iff {elem : Json} : isAdministrator elem = true ↔ ∃ entry, parseTgaMember elem = some entry := by
  unfold isAdministrator parseTgaMember
  simp only [Option.isSome_iff_exists, Option.bind_eq_bind, Option.bind_eq_some_iff]
  constructor
  · rintro ⟨id, user, huser, hid⟩
    exact ⟨_, user, huser, id, hid, rfl⟩
  · rintro ⟨entry, user, huser, id, hid, -⟩
    exact ⟨id, user, huser, hid⟩

/-- Where each element is an administrator there is an entry for each. -/
lemma forall₂_entryOf {elems : List Json} (h : ∀ elem ∈ elems, isAdministrator elem = true) :
    List.Forall₂ EntryOf elems (elems.filterMap parseTgaMember) := by
  induction elems with
  | nil => exact .nil
  | cons elem elems ih =>
    rw [List.forall_mem_cons] at h
    obtain ⟨entry, hentry⟩ := isAdministrator_iff.mp h.1
    rw [List.filterMap_cons, hentry]
    exact .cons (entryOf_parse hentry) (ih h.2)

section Count

variable {obj ok res : Json} {elems : List Json} (hok : obj.getNonNull "ok" = some ok) (htrue : ok.getBoolean = true)
  (hres : obj.getNonNull "result" = some res) (helems : res.array? = some elems) (before : ChatAdmins)

include hok htrue hres helems

lemma parseTgaAdminsArr_run :
    parseTgaAdminsArr obj before = .next () ⟨fillChatMembers elems (fun _ => {}) 0, elems.length⟩ := by
  unfold parseTgaAdminsArr
  rw [hok, bind_of_next (show (need (some ok) (-EINVAL) : Fill Fault ChatAdmins Json) before = .next ok before from rfl),
    htrue, if_neg (by decide), hres]
  dsimp only
  rw [bind_of_next (show (need (some res) (-EINVAL) : Fill Fault ChatAdmins Json) before = .next res before from rfl), helems]
  rfl

/-- The count is the length of the array, so it is right exactly where all of its elements are
well formed. -/
theorem administrators_reported_iff :
    ReportsAdministrators obj elems before ↔ ∀ elem ∈ elems, isAdministrator elem = true := by
  have hrun := parseTgaAdminsArr_run hok htrue hres helems before
  constructor
  · rintro ⟨out, hout, hcount, -⟩
    rw [hrun] at hout
    cases hout
    exact List.countP_eq_length.mp hcount.symm
  · intro hall
    have hentries := forall₂_entryOf hall
    refine ⟨_, hrun, (List.countP_eq_length.mpr hall).symm, ?_⟩
    rw [List.filter_eq_self.mpr hall, entries_eq, ← hentries.length_eq, Nat.sub_self, List.replicate_zero, List.append_nil]
    exact hentries

end Count

/-! ### A null in the array -/

def adminsAnswer (elems : List Json) : Json := .object [(ascii "ok", .bool true), (ascii "result", .array elems)]

def oneAdmin : Json := .object [(ascii "user", .object [(ascii "id", .int 7), (ascii "first_name", .string (ascii "A"))])]

theorem one_administrator_reported :
    (adminsAnswer [oneAdmin]).getNonNull "ok" = some (.bool true) ∧ (Json.bool true).getBoolean = true ∧
      (adminsAnswer [oneAdmin]).getNonNull "result" = some (.array [oneAdmin]) ∧
      (Json.array [oneAdmin]).array? = some [oneAdmin] ∧ ReportsAdministrators (adminsAnswer [oneAdmin]) [oneAdmin] {} := by
  refine ⟨rfl, rfl, rfl, rfl, (administrators_reported_iff rfl rfl rfl rfl {}).mpr ?_⟩
  intro elem helem
  rw [List.mem_singleton.mp helem]
  rfl

/-- One entry is reported, and nothing was stored in it. -/
theorem null_administrator_reported :
    ¬ReportsAdministrators (adminsAnswer [.null]) [.null] {} ∧
      ∃ out, parseTgaAdminsArr (adminsAnswer [.null]) {} = .next () out ∧ out.entries = [{}] := by
  have hrun := @parseTgaAdminsArr_run (adminsAnswer [.null]) _ _ [.null] rfl rfl rfl rfl {}
  refine ⟨?_, _, hrun, entries_eq _⟩
  rintro ⟨out, hout, hcount, -⟩
  rw [hrun] at hout
  cases hout
  exact absurd hcount (by decide)

end GNUWeebBot.Proofs
