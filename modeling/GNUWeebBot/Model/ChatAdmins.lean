import GNUWeebBot.Model.TgApi

/-!
# The list of administrators in memory

`parse_tga_admins` with the array it allocates: `i` goes through the elements of the result, `j` through
the entries that are filled.
-/

namespace GNUWeebBot

open Fill

/-- The stores into the entry at `aptr` for an element whose user has an id. -/
def fillChatMember (aptr : TgaChatMember) (subres user id : Json) : TgaChatMember :=
  let u := { aptr.user with id := id.getUint64 }
  let u := match user.getNonNull "is_bot" with
    | none => u
    | some tmp => { u with isBot := tmp.getBoolean }
  let u := match user.getNonNull "first_name" with
    | none => u
    | some tmp => { u with firstName := tmp.getString }
  let u := match user.getNonNull "username" with
    | none => u
    | some tmp => { u with username := tmp.getString }
  let u := match user.getNonNull "lang" with
    | none => u
    | some tmp =>
      match tmp.getString with
      | none => u
      | some lang => { u with lang := lang.take 3 }
  let aptr := { aptr with user := u }
  match subres.getNonNull "status" with
  | none => aptr
  | some tmp => { aptr with status := mapToStatus tmp.getString }

/-- The loop over the elements that are left. -/
def fillChatMembers : List Json → (admins : ℕ → TgaChatMember) → (j : ℕ) → ℕ → TgaChatMember
  | [], admins, _ => admins
  | subres :: elems, admins, j =>
    match subres.getNonNull "user" with
    | none => fillChatMembers elems admins j
    | some user =>
      match user.getNonNull "id" with
      | none => fillChatMembers elems admins j
      | some id => fillChatMembers elems (Function.update admins j (fillChatMember (admins j) subres user id)) (j + 1)

/-- `*admins` and `*admin_cp`. -/
structure ChatAdmins where
  admins : ℕ → TgaChatMember := fun _ => {}
  adminC : ℕ := 0

def ChatAdmins.entries (out : ChatAdmins) : List TgaChatMember := (List.range out.adminC).map out.admins

/-- `parse_tga_admins`, where `calloc` has memory. -/
def parseTgaAdminsArr (obj : Json) : Fill Fault ChatAdmins Unit := do
  let ok ← need (obj.getNonNull "ok") (-EINVAL)
  if !ok.getBoolean then exit (-EBADMSG)
  let res ← need (obj.getNonNull "result") (-EINVAL)
  match res.array? with
  | none => crash .arrayLength
  | some elems => modify fun _ => ⟨fillChatMembers elems (fun _ => {}) 0, elems.length⟩

end GNUWeebBot
