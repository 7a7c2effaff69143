import GNUWeebBot.Model.TgEvent

/-!
# What the decoders of the parts of a message require

Each of them goes on exactly where its mandatory keys are there. None of them can fault, apart
from the sticker's.
-/

namespace GNUWeebBot.Proofs

open Fill

/-- The key is there, with any value. -/
def Has (jso : Json) (key : String) : Prop := (jso.getEx key).isSome

/-- Where the key is there, its value is an array. -/
def ArrayAt (jso : Json) (key : String) : Prop := ∀ res, jso.getEx key = some res → (res.array?).isSome

def FromOk (jfrom : Json) : Prop := Has jfrom "id" ∧ Has jfrom "first_name"

def ChatOk (jchat : Json) : Prop :=
  Has jchat "id" ∧
    match (jchat.optString "type").bind chatTypeOf with
    | none => False
    | some .privateChat => Has jchat "first_name"
    | some .group => Has jchat "all_members_are_administrators" ∧ Has jchat "title"
    | some .supergroup => Has jchat "title"

def FileOk (jfile : Json) : Prop :=
  Has jfile "file_id" ∧ Has jfile "file_unique_id" ∧ Has jfile "file_size" ∧ (Has jfile "width" → Has jfile "height")

/-- A thumbnail is read from the same object, so it needs nothing more. -/
def MediaOk (jmdia : Json) : Prop := Has jmdia "file_name" ∧ Has jmdia "mime_type" ∧ FileOk jmdia

def StickerOk (jstk : Json) : Prop :=
  Has jstk "width" ∧ Has jstk "height" ∧ Has jstk "emoji" ∧ Has jstk "set_name" ∧ Has jstk "is_animated" ∧
    Has jstk "file_id" ∧ Has jstk "file_unique_id" ∧ Has jstk "file_size" ∧
    ∃ thumb, jstk.getEx "thumb" = some thumb ∧ FileOk thumb

/-- An emoji that is looked at is not null. -/
def EmojiOk (jstk : Json) : Prop :=
  Has jstk "width" → Has jstk "height" → jstk.getEx "emoji" ≠ some .null

def SenderOk (jmsg : Json) : Prop := Has jmsg "message_id" ∧ ∃ jfrom, jmsg.getEx "from" = some jfrom ∧ FromOk jfrom

def ForwardOk (jmsg : Json) : Prop :=
  (∀ jfrom, jmsg.getEx "forward_from" = some jfrom → FromOk jfrom) ∧
    (Has jmsg "forward_from" ∨ Has jmsg "forward_sender_name" → Has jmsg "forward_date")

def HeaderOk (jmsg : Json) : Prop :=
  SenderOk jmsg ∧ ForwardOk jmsg ∧ (∃ jchat, jmsg.getEx "chat" = some jchat ∧ ChatOk jchat) ∧
    (∀ jchat, jmsg.getEx "sender_chat" = some jchat → ChatOk jchat) ∧ Has jmsg "date"

lemma has_of_some {jso res : Json} {key : String} (h : jso.getEx key = some res) : Has jso key := by
  simp [Has, h]

lemma not_has_of_none {jso : Json} {key : String} (h : jso.getEx key = none) : ¬Has jso key := by
  simp [Has, h]

/-- A mandatory key. -/
lemma wp_need_key {σ : Type} {jso : Json} {key : String} {code : ℤ} {Q : Json → σ → Prop} {R : ℤ → σ → Prop} {s : σ} :
    wp (need (jso.getEx key) code : Fill Fault σ Json) Q R s ↔
      (∀ res, jso.getEx key = some res → Q res s) ∧ (¬Has jso key → R code s) := by
  cases h : jso.getEx key <;> simp [Has, h]

lemma forall_getEx_iff {jso : Json} {key : String} {P : Prop} :
    (∀ res, jso.getEx key = some res → P) ↔ (Has jso key → P) := by
  cases h : jso.getEx key <;> simp [Has, h]

theorem parseTgeviFrom_checks (jfrom : Json) : Checks (parseTgeviFrom jfrom) (FromOk jfrom) (-EINVAL) := by
  apply Checks.of_wp
  intro s
  unfold parseTgeviFrom
  cases hlang : jfrom.optString "language_code" <;>
    simp +contextual [wp_need_key, forall_getEx_iff, saneStrncpy, FromOk]

theorem parseTgeviFile_checks (jfile : Json) : Checks (parseTgeviFile jfile) (FileOk jfile) (-EINVAL) := by
  apply Checks.of_wp
  intro s
  unfold parseTgeviFile
  cases hwidth : jfile.getEx "width" <;>
    simp +contextual [wp_need_key, forall_getEx_iff, FileOk, has_of_some, not_has_of_none, hwidth]

theorem parseTgeviMedia_checks (jmdia : Json) : Checks (parseTgeviMedia jmdia) (MediaOk jmdia) (-EINVAL) := by
  apply Checks.of_wp
  intro s
  unfold parseTgeviMedia
  have hfile := parseTgeviFile_checks jmdia
  cases hwidth : jmdia.getEx "width" <;> cases hthumb : jmdia.getEx "thumb" <;>
    simp +contextual [wp_need_key, forall_getEx_iff, hfile.wp_iff, MediaOk, FileOk, not_has_of_none, has_of_some, hwidth]

theorem parseTgeviChat_checks (jchat : Json) : Checks (parseTgeviChat jchat) (ChatOk jchat) (-EINVAL) := by
  apply Checks.of_wp
  intro s
  unfold parseTgeviChat ChatOk
  cases htype : jchat.optString "type" with
  | none => simp [wp_need_key]
  | some type =>
    cases hkind : chatTypeOf type with
    | none => simp [wp_need_key, hkind]
    | some kind => cases kind <;> simp +contextual [wp_need_key, forall_getEx_iff, hkind]

/-! ### The sticker, which copies its emoji -/

lemma exists_emoji_string {jstk emoji : Json} (hemoji : EmojiOk jstk) (hwidth : Has jstk "width")
    (hheight : Has jstk "height") (he : jstk.getEx "emoji" = some emoji) : ∃ src, emoji.getString = some src := by
  have hne : emoji ≠ .null := by
    rintro rfl
    exact hemoji hwidth hheight he
  exact Option.ne_none_iff_exists'.mp (mt Json.getString_eq_none.mp hne)

theorem parseTgeviSticker_checks {jstk : Json} (hemoji : EmojiOk jstk) :
    Checks (parseTgeviSticker jstk) (StickerOk jstk) (-EINVAL) := by
  apply Checks.of_wp
  intro s
  unfold parseTgeviSticker
  cases hwidth : jstk.getEx "width" with
  | none => simp [StickerOk, not_has_of_none hwidth]
  | some width =>
    cases hheight : jstk.getEx "height" with
    | none => simp [StickerOk, not_has_of_none hheight]
    | some height =>
      cases he : jstk.getEx "emoji" with
      | none => simp [StickerOk, not_has_of_none he]
      | some emoji =>
        obtain ⟨src, hsrc⟩ := exists_emoji_string hemoji (has_of_some hwidth) (has_of_some hheight) he
        cases ht : jstk.getEx "thumb" with
        | none => simp +contextual [wp_need_key, StickerOk, ht, hsrc, saneStrncpy]
        | some thumb =>
          simp +contextual [wp_need_key, forall_getEx_iff, StickerOk, has_of_some hwidth, has_of_some hheight,
            has_of_some he, ht, hsrc, saneStrncpy, (parseTgeviFile_checks thumb).wp_iff]

lemma parseTgeviSticker_fault {jstk : Json} (hemoji : ¬EmojiOk jstk) (s : TgeviSticker) :
    ∃ s', parseTgeviSticker jstk s = .fault .strncpyNull s' := by
  simp only [EmojiOk, not_forall, not_not] at hemoji
  obtain ⟨hw, hh, he⟩ := hemoji
  obtain ⟨width, hwidth⟩ := Option.isSome_iff_exists.mp hw
  obtain ⟨height, hheight⟩ := Option.isSome_iff_exists.mp hh
  unfold parseTgeviSticker
  rw [hwidth, hheight, he]
  exact ⟨_, rfl⟩

/-! ### Arrays -/

/-- The elements of the array at a key. -/
def elemsAt (jso : Json) (key : String) : List Json := ((jso.getEx key).bind Json.array?).getD []

/-- What the decoder makes of the entities at a key. -/
def entitiesOf (jmsg : Json) (key : String) : ℕ × List TgeviEntity :=
  let entityC := uint16 (elemsAt jmsg key).length
  (entityC, (List.range entityC).map (fun i => parseTgeviEntity ((elemsAt jmsg key).getD i .null)))

lemma jsonArrayGetIdx_eq {σ : Type} {jso : Json} {elems : List Json} (h : jso.array? = some elems) (idx : ℕ) (s : σ) :
    jsonArrayGetIdx jso idx s = .next (elems.getD idx .null) s := by
  unfold jsonArrayGetIdx
  rw [h]
  rfl

lemma wp_parseTgeviEntities {σ : Type} {jentities : Json} {elems : List Json} (h : jentities.array? = some elems) (entityC : ℕ)
    {Q : List TgeviEntity → σ → Prop} {R : ℤ → σ → Prop} {s : σ} :
    wp (parseTgeviEntities jentities entityC) Q R s ↔
      Q ((List.range entityC).map (fun i => parseTgeviEntity (elems.getD i .null))) s := by
  apply wp_each
  intro i _
  simp only [Bind.bind, Fill.bind, jsonArrayGetIdx_eq h]
  rfl

theorem wp_parseEntitiesAt {σ : Type} (jmsg : Json) (key : String) {Q : ℕ × List TgeviEntity → σ → Prop}
    {R : ℤ → σ → Prop} {s : σ} :
    wp (parseEntitiesAt jmsg key) Q R s ↔ ArrayAt jmsg key ∧ Q (entitiesOf jmsg key) s := by
  unfold parseEntitiesAt
  cases hkey : jmsg.getEx key with
  | none => simp [ArrayAt, hkey, entitiesOf, elemsAt, uint16]
  | some res =>
    cases harray : res.array? with
    | none => simp [ArrayAt, hkey, harray, jsonArrayLength]
    | some elems =>
      have helems : elemsAt jmsg key = elems := by simp [elemsAt, hkey, harray]
      have harrayAt : ArrayAt jmsg key := by simp [ArrayAt, hkey, harray]
      simp only [wp_bind, jsonArrayLength, harray, wp_pure, harrayAt, true_and, entitiesOf, helems]
      by_cases hzero : uint16 elems.length = 0
      · simp [hzero]
      · simp only [if_neg hzero, wp_bind, wp_parseTgeviEntities harray, wp_pure]

/-- Caption entities are looked at only where there is a caption. -/
def CaptionOk (jmsg : Json) : Prop := Has jmsg "caption" → ArrayAt jmsg "caption_entities"

def captionOf (jmsg : Json) : CharPtr × ℕ × List TgeviEntity :=
  match jmsg.getEx "caption" with
  | none => (none, 0, [])
  | some res => (res.getString, entitiesOf jmsg "caption_entities")

theorem wp_parseCaption {σ : Type} (jmsg : Json) {Q : CharPtr × ℕ × List TgeviEntity → σ → Prop}
    {R : ℤ → σ → Prop} {s : σ} :
    wp (parseCaption jmsg) Q R s ↔ CaptionOk jmsg ∧ Q (captionOf jmsg) s := by
  unfold parseCaption CaptionOk captionOf
  cases hcaption : jmsg.getEx "caption" with
  | none => simp [not_has_of_none hcaption]
  | some res => simp [has_of_some hcaption, wp_parseEntitiesAt]

/-- What the decoder makes of the photo sizes; a size that lacks a key is kept as far as it was
filled. -/
def photosOf (elems : List Json) : List TgeviFile :=
  (List.range (uint16 elems.length)).map (fun i => final (parseTgeviFile (elems.getD i .null)) {})

lemma wp_parseTgeviPhotos {σ : Type} {jphotos : Json} {elems : List Json} (h : jphotos.array? = some elems)
    {Q : List TgeviFile → σ → Prop} {R : ℤ → σ → Prop} {s : σ} :
    wp (parseTgeviPhotos jphotos (uint16 elems.length)) Q R s ↔ Q (photosOf elems) s := by
  apply wp_each
  intro i _
  obtain ⟨ret, hfile⟩ := (parseTgeviFile_checks (elems.getD i .null)).exists_fresh {} s
  simp only [Bind.bind, Fill.bind, jsonArrayGetIdx_eq h, hfile]
  rfl

/-! ### The header -/

theorem parseForward_checks (jmsg : Json) : Checks (parseForward jmsg) (ForwardOk jmsg) (-EINVAL) := by
  apply Checks.of_wp
  intro s
  unfold parseForward
  cases hfrom : jmsg.getEx "forward_from" with
  | none =>
    cases hname : jmsg.getEx "forward_sender_name" <;>
      simp +contextual [wp_need_key, ForwardOk, hfrom, hname, has_of_some, not_has_of_none]
  | some jfrom =>
    simp +contextual [wp_need_key, forall_getEx_iff, ForwardOk, hfrom, has_of_some, (parseTgeviFrom_checks jfrom).wp_iff]

theorem parseHeader_checks (jmsg : Json) : Checks (parseHeader jmsg) (HeaderOk jmsg) (-EINVAL) := by
  apply Checks.of_wp
  intro s
  unfold parseHeader
  cases hfrom : jmsg.getEx "from" with
  | none => simp +contextual [wp_need_key, HeaderOk, SenderOk, hfrom]
  | some jfrom =>
    cases hchat : jmsg.getEx "chat" with
    | none =>
      simp +contextual [wp_need_key, HeaderOk, SenderOk, hfrom, hchat,
        (parseTgeviFrom_checks jfrom).wp_iff, (parseForward_checks jmsg).wp_iff]
    | some jchat =>
      cases hsender : jmsg.getEx "sender_chat" <;>
        simp +contextual [wp_need_key, forall_getEx_iff, HeaderOk, SenderOk, hfrom, hchat, hsender,
          (parseTgeviFrom_checks jfrom).wp_iff, (parseForward_checks jmsg).wp_iff, (parseTgeviChat_checks _).wp_iff]

/-- Whether the sender was parsed and under which name can be read off the message, also where a
later part of the header is missing. -/
def senderName (jmsg : Json) : CharPtr := (jmsg.getEx "from").bind (fun jfrom => jfrom.optString "first_name")

lemma parseForward_frame (jmsg : Json) (e : TgevHeader) :
    (final (parseForward jmsg) e).sender = e.sender ∧ (final (parseForward jmsg) e).senderParsed = e.senderParsed := by
  apply final_of_wp (P := fun e' : TgevHeader => e'.sender = e.sender ∧ e'.senderParsed = e.senderParsed)
  unfold parseForward
  cases hfrom : jmsg.getEx "forward_from" with
  | none => cases hname : jmsg.getEx "forward_sender_name" <;> simp [wp_need_key]
  | some jfrom => simp [wp_need_key, (parseTgeviFrom_checks jfrom).wp_iff]

lemma final_parseTgeviFrom_firstName {jfrom : Json} (hfrom : FromOk jfrom) (s : TgeviFrom) :
    (final (parseTgeviFrom jfrom) s).firstName = jfrom.optString "first_name" := by
  apply final_of_wp (P := fun s' : TgeviFrom => s'.firstName = jfrom.optString "first_name")
  obtain ⟨id, hid⟩ := Option.isSome_iff_exists.mp hfrom.1
  obtain ⟨name, hname⟩ := Option.isSome_iff_exists.mp hfrom.2
  unfold parseTgeviFrom
  cases hlang : jfrom.optString "language_code" <;> simp [hid, hname, saneStrncpy, Json.optString]

lemma final_parseHeader_sender (jmsg : Json) :
    ((final (parseHeader jmsg) {}).senderParsed = true ↔ SenderOk jmsg) ∧
      (SenderOk jmsg → (final (parseHeader jmsg) {}).sender.firstName = senderName jmsg) := by
  apply final_of_wp (P := fun e : TgevHeader =>
    (e.senderParsed = true ↔ SenderOk jmsg) ∧ (SenderOk jmsg → e.sender.firstName = senderName jmsg))
  unfold parseHeader
  cases hfrom : jmsg.getEx "from" with
  | none => simp [wp_need_key, SenderOk, hfrom]
  | some jfrom =>
    have hchecks := (parseTgeviFrom_checks jfrom)
    have hforward := parseForward_checks jmsg
    cases hsender : jmsg.getEx "sender_chat" <;>
      simp +contextual [wp_need_key, forall_getEx_iff, SenderOk, hfrom, senderName, hchecks.wp_iff, hforward.wp_iff,
        (parseTgeviChat_checks _).wp_iff, parseForward_frame, final_parseTgeviFrom_firstName]

end GNUWeebBot.Proofs
