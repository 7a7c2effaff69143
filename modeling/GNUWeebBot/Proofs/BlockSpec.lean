import GNUWeebBot.Model.TgevBlocks
import GNUWeebBot.Proofs.DecoderSpec
import GNUWeebBot.Proofs.PartPaths

/-!
# What the decoders obtain and what an event gives back

One equivalence for each kind of message says which blocks its decoder obtains. An event that is
destroyed gives back what it holds, apart from an unknown one, which keeps everything.
-/

namespace GNUWeebBot.Proofs

open Fill
open Blocks (TgevOwn ReplyPtr Alloc calloc store checked parseReplyTo tgEventDestroy destroyReplyToMsg)

/-! ### What the decoders obtain -/

section Decoders

variable {Q : Unit → Alloc → Prop} {P R : ℤ → Alloc → Prop} {a : Alloc}

@[simp] lemma wp_calloc {Q : ℕ → Alloc → Prop} :
    wp calloc Q R a ↔ Q a.ledger.obtained { a with ledger := a.ledger.obtain.2 } := Iff.rfl

@[simp] lemma wp_store (own : TgevOwn) : wp (store own) Q R a ↔ Q () { a with own } := Iff.rfl

lemma wp_checked {τ : Type} {m : Fill Fault τ Unit} {C : Prop} {code : ℤ} (hm : Checks m C code) (hcode : code ≠ 0) (t : τ) :
    wp (checked m t) Q R a ↔ (C → Q () a) ∧ (¬C → R code a) := by
  simp [checked, hm.wp_iff, hcode]

/-- The array for so many entities, none for none. -/
def obtainArray (count : ℕ) (l : Ledger) : Option ℕ × Ledger := if count = 0 then (none, l) else (some l.obtained, l.obtain.2)

lemma wp_parseEntitiesAt_blocks (jmsg : Json) (key : String) {Q : ℕ × Option ℕ → Alloc → Prop} :
    wp (Blocks.parseEntitiesAt jmsg key) Q R a ↔
      ArrayAt jmsg key ∧ Q ((entitiesOf jmsg key).1, (obtainArray (entitiesOf jmsg key).1 a.ledger).1)
        { a with ledger := (obtainArray (entitiesOf jmsg key).1 a.ledger).2 } := by
  unfold Blocks.parseEntitiesAt
  cases hkey : jmsg.getEx key with
  | none => simp [ArrayAt, hkey, entitiesOf, elemsAt, uint16, obtainArray]
  | some res =>
    cases harray : res.array? with
    | none => simp [ArrayAt, hkey, harray, jsonArrayLength]
    | some elems =>
      have helems : elemsAt jmsg key = elems := by simp [elemsAt, hkey, harray]
      have hat : ArrayAt jmsg key := by simp [ArrayAt, hkey, harray]
      simp only [wp_bind, jsonArrayLength, harray, wp_pure, hat, true_and, entitiesOf, helems]
      by_cases hzero : uint16 elems.length = 0
      · simp [hzero, obtainArray]
      · simp only [if_neg hzero, wp_bind, wp_calloc, wp_parseTgeviEntities harray, wp_pure, obtainArray]

lemma wp_parseCaption_blocks (jmsg : Json) {Q : ℕ × Option ℕ → Alloc → Prop} :
    wp (Blocks.parseCaption jmsg) Q R a ↔
      CaptionOk jmsg ∧ Q ((captionOf jmsg).2.1, (obtainArray (captionOf jmsg).2.1 a.ledger).1)
        { a with ledger := (obtainArray (captionOf jmsg).2.1 a.ledger).2 } := by
  unfold Blocks.parseCaption CaptionOk captionOf
  cases hcaption : jmsg.getEx "caption" with
  | none => simp [not_has_of_none hcaption, obtainArray]
  | some res => simp [has_of_some hcaption, wp_parseEntitiesAt_blocks]

variable {jmsg : Json} {replyTo : Ledger → Except Fault (ReplyPtr × Ledger)}

lemma wp_parseReplyTo {Q : ReplyPtr → Alloc → Prop} :
    wp (parseReplyTo replyTo) Q R a ↔
      ∃ reply ledger, replyTo a.ledger = .ok (reply, ledger) ∧ Q reply { a with ledger } := by
  unfold parseReplyTo
  cases h : replyTo a.ledger with
  | error e => simp [wp, Bind.bind, Fill.bind, h, lift, crash]
  | ok decoded =>
    obtain ⟨reply, ledger⟩ := decoded
    simp [wp, Bind.bind, Fill.bind, h, lift, Pure.pure, Fill.modify]

lemma wp_checked_header : wp (checked (parseHeader jmsg) {}) Q R a ↔ (HeaderOk jmsg → Q () a) ∧ (¬HeaderOk jmsg → R (-EINVAL) a) :=
  wp_checked (parseHeader_checks jmsg) einval_ne_zero {}

lemma parseMessage_text_blocks {text : Json} (hkind : jmsg.getEx "text" = some text) :
    wp (Blocks.parseMessageWith jmsg replyTo) (fun _ => P 0) P a ↔
      (¬HeaderOk jmsg → P (-EINVAL) { a with own := .text 0 none .null }) ∧
      (HeaderOk jmsg → ArrayAt jmsg "entities" ∧
        let array := obtainArray (entitiesOf jmsg "entities").1 a.ledger
        ∃ reply ledger, replyTo array.2 = .ok (reply, ledger) ∧
          P 0 ⟨.text (entitiesOf jmsg "entities").1 array.1 reply, ledger⟩) := by
  simp only [Blocks.parseMessageWith, wp_bind, wp_returnUnless, if_neg canceled_ne.1, Blocks.parseEventText, hkind, wp_need_some,
    wp_store, wp_checked_header, if_neg canceled_ne.2, wp_parseEntitiesAt_blocks, wp_parseReplyTo]
  tauto

lemma parseMessage_photo_blocks {photos : Json} {elems : List Json} (htext : jmsg.getEx "text" = none)
    (hkind : jmsg.getEx "photo" = some photos) (harray : photos.array? = some elems) :
    wp (Blocks.parseMessageWith jmsg replyTo) (fun _ => P 0) P a ↔
      (¬HeaderOk jmsg → P (-EINVAL) ⟨.photo (some a.ledger.obtained) 0 none .null, a.ledger.obtain.2⟩) ∧
      (HeaderOk jmsg → CaptionOk jmsg ∧
        let array := obtainArray (captionOf jmsg).2.1 a.ledger.obtain.2
        P 0 ⟨.photo (some a.ledger.obtained) (captionOf jmsg).2.1 array.1 .null, array.2⟩) := by
  simp only [Blocks.parseMessageWith, wp_bind, Blocks.parseEventText, wp_of_next (returnUnless_need_none htext _ _), wp_returnUnless,
    if_neg canceled_ne.1, Blocks.parseEventPhoto, hkind, wp_need_some, wp_store, jsonArrayLength, harray, wp_pure, wp_calloc,
    wp_parseTgeviPhotos harray, wp_checked_header, if_neg canceled_ne.2, wp_parseCaption_blocks]
  tauto

lemma parseMessage_sticker_blocks {jstk : Json} (htext : jmsg.getEx "text" = none) (hphoto : jmsg.getEx "photo" = none)
    (hkind : jmsg.getEx "sticker" = some jstk) (hemoji : EmojiOk jstk) :
    wp (Blocks.parseMessageWith jmsg replyTo) (fun _ => P 0) P a ↔
      (¬(StickerOk jstk ∧ HeaderOk jmsg) → P (-EINVAL) { a with own := .sticker .null }) ∧
      (StickerOk jstk ∧ HeaderOk jmsg → ∃ reply ledger, replyTo a.ledger = .ok (reply, ledger) ∧ P 0 ⟨.sticker reply, ledger⟩) := by
  simp only [Blocks.parseMessageWith, wp_bind, Blocks.parseEventText, wp_of_next (returnUnless_need_none htext _ _),
    Blocks.parseEventPhoto, wp_of_next (returnUnless_need_none hphoto _ _), wp_returnUnless, if_neg canceled_ne.1,
    Blocks.parseEventSticker, hkind, wp_need_some, wp_store, wp_checked (parseTgeviSticker_checks hemoji) einval_ne_zero,
    wp_checked_header, if_neg canceled_ne.2, wp_parseReplyTo]
  tauto

lemma parseMessage_gif_blocks {animation : Json} (htext : jmsg.getEx "text" = none) (hphoto : jmsg.getEx "photo" = none)
    (hsticker : jmsg.getEx "sticker" = none) (hkind : jmsg.getEx "animation" = some animation) :
    wp (Blocks.parseMessageWith jmsg replyTo) (fun _ => P 0) P a ↔
      (¬((MediaOk animation ∧ Has jmsg "document") ∧ HeaderOk jmsg) → P (-EINVAL) { a with own := .gif 0 none .null }) ∧
      ((MediaOk animation ∧ Has jmsg "document") ∧ HeaderOk jmsg → CaptionOk jmsg ∧
        let array := obtainArray (captionOf jmsg).2.1 a.ledger
        P 0 ⟨.gif (captionOf jmsg).2.1 array.1 .null, array.2⟩) := by
  simp only [Blocks.parseMessageWith, wp_bind, Blocks.parseEventText, wp_of_next (returnUnless_need_none htext _ _),
    Blocks.parseEventPhoto, wp_of_next (returnUnless_need_none hphoto _ _), Blocks.parseEventSticker,
    wp_of_next (returnUnless_need_none hsticker _ _), wp_returnUnless, if_neg canceled_ne.1,
    Blocks.parseEventGif, hkind, wp_need_some, wp_store, wp_checked (parseTgeviMedia_checks animation) einval_ne_zero,
    wp_need_field, wp_fresh, (parseTgeviFile_checks _).wp_iff, Classical.imp_and_neg_imp_iff, wp_checked_header,
    if_neg canceled_ne.2, wp_parseCaption_blocks]
  constructor
  · rintro ⟨hmedia, hbad⟩
    refine ⟨fun hnot => ?_, fun hok => ((hmedia hok.1.1).1 hok.1.2).1 hok.2⟩
    by_cases hm : MediaOk animation
    · by_cases hd : Has jmsg "document"
      · exact ((hmedia hm).1 hd).2 (fun hheader => hnot ⟨⟨hm, hd⟩, hheader⟩)
      · exact (hmedia hm).2 hd
    · exact hbad hm
  · rintro ⟨hbad, hgood⟩
    refine ⟨fun hm => ⟨fun hd => ⟨fun hheader => hgood ⟨⟨hm, hd⟩, hheader⟩, fun hnot => ?_⟩, fun hnot => ?_⟩, fun hnot => ?_⟩
    · exact hbad (fun hok => hnot hok.2)
    · exact hbad (fun hok => hnot hok.1.2)
    · exact hbad (fun hok => hnot hok.1.1)

lemma parseMessage_unknown_blocks (htext : jmsg.getEx "text" = none) (hphoto : jmsg.getEx "photo" = none)
    (hsticker : jmsg.getEx "sticker" = none) (hgif : jmsg.getEx "animation" = none) :
    wp (Blocks.parseMessageWith jmsg replyTo) (fun _ => P 0) P a ↔
      (¬HeaderOk jmsg → P 0 { a with own := .unknown 0 none .null }) ∧
      (HeaderOk jmsg → ArrayAt jmsg "entities" ∧
        let array := obtainArray (entitiesOf jmsg "entities").1 a.ledger
        ∃ reply ledger, replyTo array.2 = .ok (reply, ledger) ∧
          P 0 ⟨.unknown (entitiesOf jmsg "entities").1 array.1 reply, ledger⟩) := by
  simp only [Blocks.parseMessageWith, wp_bind, Blocks.parseEventText, wp_of_next (returnUnless_need_none htext _ _),
    Blocks.parseEventPhoto, wp_of_next (returnUnless_need_none hphoto _ _), Blocks.parseEventSticker,
    wp_of_next (returnUnless_need_none hsticker _ _), Blocks.parseEventGif, wp_of_next (returnUnless_need_none hgif _ _), wp_ignore,
    Blocks.parseEventUnknown, wp_store, wp_checked_header, wp_parseEntitiesAt_blocks, wp_parseReplyTo]
  tauto

end Decoders

/-! ### What an event holds -/

mutual

/-- The blocks of an event, with those of its reply. -/
def held : TgevOwn → List ℕ
  | .zeroed => []
  | .text _ entities replyTo => entities.toList ++ heldReply replyTo
  | .photo photo _ entities replyTo => photo.toList ++ (entities.toList ++ heldReply replyTo)
  | .sticker replyTo => heldReply replyTo
  | .gif _ entities replyTo => entities.toList ++ heldReply replyTo
  | .unknown _ entities replyTo => entities.toList ++ heldReply replyTo

def heldReply : ReplyPtr → List ℕ
  | .null => []
  | .node block evt => block :: held evt

end

/-- An array is freed if its count is not zero. -/
def keptArray (count : ℕ) (array : Option ℕ) : List ℕ := if 0 < count then [] else array.toList

mutual

/-- The blocks that an event still holds after it is destroyed. -/
def kept : TgevOwn → List ℕ
  | .zeroed => []
  | .text entityC entities replyTo => keptArray entityC entities ++ keptReply replyTo
  | .photo _ entityC entities replyTo => keptArray entityC entities ++ keptReply replyTo
  | .sticker replyTo => keptReply replyTo
  | .gif entityC entities replyTo => keptArray entityC entities ++ keptReply replyTo
  | .unknown _ entities replyTo => entities.toList ++ heldReply replyTo

def keptReply : ReplyPtr → List ℕ
  | .null => []
  | .node _ evt => kept evt

end

section Destroy

variable {l l' : Ledger} {rest : List ℕ}

lemma perm_swap_front (front mid rest : List ℕ) : (front ++ (mid ++ rest)).Perm (mid ++ (front ++ rest)) := by
  rw [List.perm_iff_count]
  intro b
  simp only [List.count_append]
  omega

/-- The array, and then the reply. -/
lemma destroy_array_accounts {replyTo : ReplyPtr} {array : Option ℕ} (count : ℕ)
    (hreply : ∀ {l' : Ledger} {rest : List ℕ}, l.Accounts l' (heldReply replyTo ++ rest) →
      l.Accounts (destroyReplyToMsg replyTo l') (keptReply replyTo ++ rest))
    (h : l.Accounts l' (array.toList ++ (heldReply replyTo ++ rest))) :
    l.Accounts (destroyReplyToMsg replyTo (if 0 < count then l'.free array else l'))
      (keptArray count array ++ keptReply replyTo ++ rest) := by
  have harray : l.Accounts (if 0 < count then l'.free array else l') (keptArray count array ++ (heldReply replyTo ++ rest)) := by
    unfold keptArray
    by_cases hcount : 0 < count
    · rw [if_pos hcount, if_pos hcount]
      exact h.free
    · rw [if_neg hcount, if_neg hcount]
      exact h
  have hdestroyed := hreply (harray.perm (perm_swap_front _ _ _))
  rw [List.append_assoc]
  exact hdestroyed.perm (perm_swap_front _ _ _)

mutual

lemma tgEventDestroy_accounts (own : TgevOwn) {l' : Ledger} {rest : List ℕ} (h : l.Accounts l' (held own ++ rest)) :
    l.Accounts (tgEventDestroy own l') (kept own ++ rest) := by
  cases own with
  | zeroed => exact h
  | unknown entityC entities replyTo => exact h
  | text entityC entities replyTo =>
    rw [held, List.append_assoc] at h
    exact destroy_array_accounts entityC (fun hreply => destroyReplyToMsg_accounts replyTo hreply) h
  | photo photo entityC entities replyTo =>
    rw [held, List.append_assoc, List.append_assoc] at h
    exact destroy_array_accounts entityC (fun hreply => destroyReplyToMsg_accounts replyTo hreply) h.free
  | sticker replyTo => exact destroyReplyToMsg_accounts replyTo h
  | gif entityC entities replyTo =>
    rw [held, List.append_assoc] at h
    exact destroy_array_accounts entityC (fun hreply => destroyReplyToMsg_accounts replyTo hreply) h

lemma destroyReplyToMsg_accounts (replyTo : ReplyPtr) {l' : Ledger} {rest : List ℕ} (h : l.Accounts l' (heldReply replyTo ++ rest)) :
    l.Accounts (destroyReplyToMsg replyTo l') (keptReply replyTo ++ rest) := by
  cases replyTo with
  | null => exact h
  | node block evt =>
    have hevt := h.perm (perm_swap_front [block] (held evt) rest)
    exact ((tgEventDestroy_accounts evt hevt).perm (perm_swap_front (kept evt) (some block).toList rest)).free

end

end Destroy

end GNUWeebBot.Proofs
