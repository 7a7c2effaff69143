import GNUWeebBot.Proofs.BlockSpec
import GNUWeebBot.Proofs.FieldPaths

/-!
# Whether every block of an event is freed

An unknown message keeps its entities and its reply, and a reply that is refused leaves its photo sizes
behind. Elsewhere each block is freed exactly once.
-/

namespace GNUWeebBot.Proofs

open Fill
open Blocks (TgevOwn ReplyPtr Alloc checked tgEventDestroy)

/-! ### The condition on the JSON -/

/-- A photo is not refused. -/
def PhotoOk (jmsg : Json) : Prop := ∀ photos, messageKind jmsg = .photo photos → HeaderOk jmsg

/-- An unknown message that is decoded to its end has neither entities nor a reply that is stored. -/
def UnknownEmpty (jmsg : Json) : Prop :=
  messageKind jmsg = .unknown → HeaderOk jmsg →
    (elemsAt jmsg "entities").length % 2 ^ 16 = 0 ∧ ∀ reply, ¬StoresReply jmsg reply

/-- Nothing that one message obtains is left behind. -/
def Releasable (jmsg : Json) : Prop := UnknownEmpty jmsg ∧ ∀ reply, DecodesReply jmsg reply → PhotoOk reply

def AllReleasable (jmsg : Json) : Prop := ∀ reply, Relation.ReflTransGen StoresReply jmsg reply → Releasable reply

/-- The same for the replies alone. -/
def RepliesReleasable (jmsg : Json) : Prop :=
  ∀ reply, DecodesReply jmsg reply → PhotoOk reply ∧ (Acceptable reply → AllReleasable reply)

lemma allReleasable_iff (jmsg : Json) : AllReleasable jmsg ↔ UnknownEmpty jmsg ∧ RepliesReleasable jmsg := by
  constructor
  · intro hall
    obtain ⟨hunknown, hphotos⟩ := hall jmsg .refl
    refine ⟨hunknown, fun reply hdecodes => ⟨hphotos reply hdecodes, fun haccept last hrest => ?_⟩⟩
    exact hall last (.head ⟨hdecodes, haccept⟩ hrest)
  · rintro ⟨hunknown, hreplies⟩ last hchain
    rcases Relation.ReflTransGen.cases_head hchain with rfl | ⟨reply, hstores, hrest⟩
    · exact ⟨hunknown, fun reply hdecodes => (hreplies reply hdecodes).1⟩
    · exact (hreplies reply hstores.1).2 hstores.2 last hrest

lemma acceptable_of_reaches {jmsg : Json} (h : ReachesReply jmsg) : Acceptable jmsg := by
  unfold ReachesReply at h
  unfold Acceptable
  cases hkind : messageKind jmsg with
  | text text =>
    rw [hkind] at h
    exact h
  | photo photos =>
    rw [hkind] at h
    exact h.elim
  | sticker jstk =>
    rw [hkind] at h
    exact h
  | gif animation =>
    rw [hkind] at h
    exact h.elim
  | unknown => trivial

/-- A message without replies that is not unknown. -/
lemma allReleasable_of_not_reaches {jmsg : Json} (hreaches : ¬ReachesReply jmsg) : AllReleasable jmsg := by
  rw [allReleasable_iff]
  refine ⟨fun hkind hheader => ?_, fun reply hdecodes => absurd hdecodes.1 hreaches⟩
  unfold ReachesReply at hreaches
  rw [hkind] at hreaches
  exact absurd hheader hreaches

/-! ### One message -/

/-- The blocks of a message that was decoded from `l` on. -/
def BlockOutcome (jmsg : Json) (l : Ledger) (code : ℤ) (a : Alloc) : Prop :=
  ∃ lost, l.Accounts a.ledger (held a.own ++ lost) ∧
    (code = 0 → (kept a.own = [] ∧ lost = [] ↔ AllReleasable jmsg)) ∧
    (code ≠ 0 → kept a.own = [] ∧ lost = [] ∧ (held a.own = [] ↔ PhotoOk jmsg))

def ReplyOutcome (jmsg : Json) (l : Ledger) (ptr : ReplyPtr) (l' : Ledger) : Prop :=
  ∃ lost, l.Accounts l' (heldReply ptr ++ lost) ∧ (keptReply ptr = [] ∧ lost = [] ↔ RepliesReleasable jmsg) ∧
    (heldReply ptr = [] ↔ ∀ reply, ¬StoresReply jmsg reply)

lemma accounts_obtainArray (count : ℕ) (l : Ledger) : l.Accounts (obtainArray count l).2 (obtainArray count l).1.toList := by
  unfold obtainArray
  by_cases hcount : count = 0
  · rw [if_pos hcount]
    exact Ledger.Accounts.refl l
  · rw [if_neg hcount]
    exact Ledger.Accounts.obtain l

lemma keptArray_obtainArray (count : ℕ) (l : Ledger) : keptArray count (obtainArray count l).1 = [] := by
  unfold keptArray obtainArray
  by_cases hcount : count = 0
  · simp [hcount]
  · simp [Nat.pos_of_ne_zero hcount]

lemma obtainArray_toList (count : ℕ) (l : Ledger) : (obtainArray count l).1.toList = [] ↔ count = 0 := by
  unfold obtainArray
  by_cases hcount : count = 0 <;> simp [hcount]

section Message

variable {jmsg : Json} {l : Ledger}

/-- A message that stores nothing but what its destruction frees. -/
lemma outcome_of_refused {code : ℤ} {a : Alloc} (hcode : code ≠ 0) (haccounts : l.Accounts a.ledger (held a.own))
    (hkept : kept a.own = []) (hphoto : held a.own = [] ↔ PhotoOk jmsg) : BlockOutcome jmsg l code a := by
  refine ⟨[], ?_, fun hzero => absurd hzero hcode, fun _ => ⟨hkept, rfl, hphoto⟩⟩
  rw [List.append_nil]
  exact haccounts

lemma outcome_of_no_reply {a : Alloc} (hreaches : ¬ReachesReply jmsg) (haccounts : l.Accounts a.ledger (held a.own))
    (hkept : kept a.own = []) : BlockOutcome jmsg l 0 a := by
  refine ⟨[], ?_, fun _ => ⟨fun _ => allReleasable_of_not_reaches hreaches, fun _ => ⟨hkept, rfl⟩⟩, fun hne => absurd rfl hne⟩
  rw [List.append_nil]
  exact haccounts

/-- A message with an array and a reply, both of which its destruction takes care of. -/
lemma outcome_of_reply {a : Alloc} {l₁ : Ledger} {ptr : ReplyPtr} (array : Option ℕ) (hkind : messageKind jmsg ≠ .unknown)
    (harray : l.Accounts l₁ array.toList) (hreply : ReplyOutcome jmsg l₁ ptr a.ledger)
    (hheld : held a.own = array.toList ++ heldReply ptr) (hkept : kept a.own = keptReply ptr) : BlockOutcome jmsg l 0 a := by
  obtain ⟨lost, haccounts, hreleased, -⟩ := hreply
  refine ⟨lost, ?_, fun _ => ?_, fun hne => absurd rfl hne⟩
  · rw [hheld, List.append_assoc]
    exact harray.trans haccounts
  · rw [hkept, hreleased, allReleasable_iff]
    exact ⟨fun h => ⟨fun hunknown => absurd hunknown hkind, h⟩, fun h => h.2⟩

/-- An unknown message keeps what it holds. -/
lemma outcome_of_unknown {l' : Ledger} {ptr : ReplyPtr} (hkind : messageKind jmsg = .unknown) (hheader : HeaderOk jmsg)
    (hreply : ReplyOutcome jmsg (obtainArray (entitiesOf jmsg "entities").1 l).2 ptr l') :
    BlockOutcome jmsg l 0 ⟨.unknown (entitiesOf jmsg "entities").1 (obtainArray (entitiesOf jmsg "entities").1 l).1 ptr, l'⟩ := by
  obtain ⟨lost, haccounts, hreleased, hnone⟩ := hreply
  refine ⟨lost, ?_, fun _ => ?_, fun hne => absurd rfl hne⟩
  · rw [held, List.append_assoc]
    exact (accounts_obtainArray _ l).trans haccounts
  · rw [kept, List.append_eq_nil_iff, obtainArray_toList, hnone, allReleasable_iff, UnknownEmpty]
    have hcount : (entitiesOf jmsg "entities").1 = (elemsAt jmsg "entities").length % 2 ^ 16 := rfl
    rw [hcount]
    constructor
    · rintro ⟨⟨hzero, hstores⟩, hlost⟩
      have hnull : keptReply ptr = [] := by
        have hheld := hnone.mpr hstores
        cases ptr with
        | null => rfl
        | node block evt => cases hheld
      exact ⟨fun _ _ => ⟨hzero, hstores⟩, hreleased.mp ⟨hnull, hlost⟩⟩
    · rintro ⟨hunknown, hreplies⟩
      exact ⟨hunknown hkind hheader, (hreleased.mpr hreplies).2⟩

/-- What the decoder with blocks makes of a message that the decoder returns from. -/
def Simulated (jmsg : Json) (code : ℤ) (decode : Fill Fault Alloc Unit) (l : Ledger) : Prop :=
  ∃ a, call decode { ledger := l } = .ok (code, a) ∧ BlockOutcome jmsg l code a

lemma simulated_of_wp {code : ℤ} {decode : Fill Fault Alloc Unit}
    (h : wp decode (fun _ a => 0 = code ∧ BlockOutcome jmsg l code a) (fun ret a => ret = code ∧ BlockOutcome jmsg l code a) { ledger := l }) :
    Simulated jmsg code decode l := by
  obtain ⟨ret, a, hcall, rfl, houtcome⟩ := (call_iff_wp decode (fun ret a => ret = code ∧ BlockOutcome jmsg l code a)).mpr h
  exact ⟨a, hcall, houtcome⟩

variable {replyTo : Except Fault (Option Tgev)} {blocks : Ledger → Except Fault (ReplyPtr × Ledger)} {code : ℤ} {evt evt' : Tgev}

/-- The reply is decoded with its blocks. -/
def ReplySimulated (jmsg : Json) (blocks : Ledger → Except Fault (ReplyPtr × Ledger)) : Prop :=
  ∀ l, ∃ ptr l', blocks l = .ok (ptr, l') ∧ ReplyOutcome jmsg l ptr l'

lemma simulated_text {text : Json} (htext : jmsg.getEx "text" = some text) (hkind : messageKind jmsg = .text text)
    (h : call (parseMessageWith jmsg replyTo) evt = .ok (code, evt'))
    (hreply : ReachesReply jmsg → ∀ reply, replyTo = .ok reply → ReplySimulated jmsg blocks) :
    Simulated jmsg code (Blocks.parseMessageWith jmsg blocks) l := by
  have hwp := wp_yields h
  rw [parseMessage_text htext] at hwp
  apply simulated_of_wp
  rw [parseMessage_text_blocks (P := fun ret a => ret = code ∧ BlockOutcome jmsg l code a) htext]
  refine ⟨fun hheader => ?_, fun hheader => ?_⟩
  · have hcode := (hwp.1 hheader).1
    refine ⟨hcode, outcome_of_refused (hcode ▸ einval_ne_zero) (Ledger.Accounts.refl l) rfl ?_⟩
    simp [held, heldReply, PhotoOk, hkind]
  · obtain ⟨harray, reply, hok, hcode, -⟩ := hwp.2 hheader
    have hreaches : ReachesReply jmsg := by
      rw [ReachesReply, hkind]
      exact hheader
    obtain ⟨ptr, l', hblocks, houtcome⟩ := hreply hreaches reply hok (obtainArray (entitiesOf jmsg "entities").1 l).2
    subst hcode
    refine ⟨harray, ptr, l', hblocks, rfl, ?_⟩
    apply outcome_of_reply _ (by simp [hkind]) (accounts_obtainArray _ l) houtcome rfl
    rw [kept, keptArray_obtainArray, List.nil_append]

lemma simulated_photo {photos : Json} (htext : jmsg.getEx "text" = none) (hphoto : jmsg.getEx "photo" = some photos)
    (hkind : messageKind jmsg = .photo photos) (h : call (parseMessageWith jmsg replyTo) evt = .ok (code, evt')) :
    Simulated jmsg code (Blocks.parseMessageWith jmsg blocks) l := by
  have hwp := wp_yields h
  rw [parseMessage_photo htext hphoto] at hwp
  obtain ⟨elems, harray, hbad, hgood⟩ := hwp
  apply simulated_of_wp
  rw [parseMessage_photo_blocks (P := fun ret a => ret = code ∧ BlockOutcome jmsg l code a) htext hphoto harray]
  refine ⟨fun hheader => ?_, fun hheader => ?_⟩
  · have hcode := (hbad hheader).1
    refine ⟨hcode, outcome_of_refused (hcode ▸ einval_ne_zero) (Ledger.Accounts.obtain l) rfl ?_⟩
    simp [held, heldReply, PhotoOk, hkind, hheader]
  · obtain ⟨hcaption, hcode, -⟩ := hgood hheader
    subst hcode
    have hreaches : ¬ReachesReply jmsg := by simp [ReachesReply, hkind]
    refine ⟨hcaption, rfl, outcome_of_no_reply hreaches ?_ ?_⟩
    · rw [held, heldReply, List.append_nil]
      exact (Ledger.Accounts.obtain l).trans (accounts_obtainArray _ _)
    · rw [kept, keptArray_obtainArray]
      rfl

lemma simulated_sticker {jstk : Json} (htext : jmsg.getEx "text" = none) (hphoto : jmsg.getEx "photo" = none)
    (hsticker : jmsg.getEx "sticker" = some jstk) (hkind : messageKind jmsg = .sticker jstk)
    (h : call (parseMessageWith jmsg replyTo) evt = .ok (code, evt'))
    (hreply : ReachesReply jmsg → ∀ reply, replyTo = .ok reply → ReplySimulated jmsg blocks) :
    Simulated jmsg code (Blocks.parseMessageWith jmsg blocks) l := by
  have hcode := code_eq_zero_iff h
  rw [Acceptable, hkind] at hcode
  have hwp := wp_yields h
  rw [parseMessage_sticker htext hphoto hsticker] at hwp
  obtain ⟨hemoji, hbad, hheaderBad, hgood⟩ := hwp
  apply simulated_of_wp
  rw [parseMessage_sticker_blocks (P := fun ret a => ret = code ∧ BlockOutcome jmsg l code a) htext hphoto hsticker hemoji]
  refine ⟨fun hrefused => ?_, fun hok => ?_⟩
  · have heinval : -EINVAL = code := by
      by_cases hstk : StickerOk jstk
      · exact (hheaderBad hstk (fun hheader => hrefused ⟨hstk, hheader⟩)).1
      · exact (hbad hstk).1
    refine ⟨heinval, outcome_of_refused (mt hcode.mp hrefused) (Ledger.Accounts.refl l) rfl ?_⟩
    simp [held, heldReply, PhotoOk, hkind]
  · obtain ⟨reply, hof, hzero, -⟩ := hgood hok.1 hok.2
    have hreaches : ReachesReply jmsg := by
      rw [ReachesReply, hkind]
      exact hok
    obtain ⟨ptr, l', hblocks, houtcome⟩ := hreply hreaches reply hof l
    subst hzero
    refine ⟨ptr, l', hblocks, rfl, ?_⟩
    exact outcome_of_reply none (by simp [hkind]) (Ledger.Accounts.refl l) houtcome rfl rfl

lemma simulated_gif {animation : Json} (htext : jmsg.getEx "text" = none) (hphoto : jmsg.getEx "photo" = none)
    (hsticker : jmsg.getEx "sticker" = none) (hgif : jmsg.getEx "animation" = some animation)
    (hkind : messageKind jmsg = .gif animation) (h : call (parseMessageWith jmsg replyTo) evt = .ok (code, evt')) :
    Simulated jmsg code (Blocks.parseMessageWith jmsg blocks) l := by
  have hcode := code_eq_zero_iff h
  rw [Acceptable, hkind] at hcode
  have hwp := wp_yields h
  rw [parseMessage_gif htext hphoto hsticker hgif] at hwp
  obtain ⟨hbad, hgood⟩ := hwp
  apply simulated_of_wp
  rw [parseMessage_gif_blocks (P := fun ret a => ret = code ∧ BlockOutcome jmsg l code a) htext hphoto hsticker hgif]
  refine ⟨fun hrefused => ?_, fun hok => ?_⟩
  · have heinval : -EINVAL = code := by
      by_cases hmedia : MediaOk animation ∧ Has jmsg "document"
      · obtain ⟨document, hdocument⟩ := Option.isSome_iff_exists.mp hmedia.2
        exact ((hgood document hmedia.1 hdocument).1 (fun hheader => hrefused ⟨hmedia, hheader⟩)).1
      · exact (hbad hmedia).1
    refine ⟨heinval, outcome_of_refused (mt hcode.mp hrefused) (Ledger.Accounts.refl l) rfl ?_⟩
    simp [held, heldReply, PhotoOk, hkind]
  · obtain ⟨document, hdocument⟩ := Option.isSome_iff_exists.mp hok.1.2
    obtain ⟨hcaption, hzero, -⟩ := (hgood document hok.1.1 hdocument).2 hok.2
    subst hzero
    have hreaches : ¬ReachesReply jmsg := by simp [ReachesReply, hkind]
    refine ⟨hcaption, rfl, outcome_of_no_reply hreaches ?_ ?_⟩
    · rw [held, heldReply, List.append_nil]
      exact accounts_obtainArray _ l
    · rw [kept, keptArray_obtainArray]
      rfl

lemma simulated_unknown (htext : jmsg.getEx "text" = none) (hphoto : jmsg.getEx "photo" = none)
    (hsticker : jmsg.getEx "sticker" = none) (hgif : jmsg.getEx "animation" = none) (hkind : messageKind jmsg = .unknown)
    (h : call (parseMessageWith jmsg replyTo) evt = .ok (code, evt'))
    (hreply : ReachesReply jmsg → ∀ reply, replyTo = .ok reply → ReplySimulated jmsg blocks) :
    Simulated jmsg code (Blocks.parseMessageWith jmsg blocks) l := by
  have hreaches : ReachesReply jmsg ↔ HeaderOk jmsg := by rw [ReachesReply, hkind]
  have hwp := wp_yields h
  rw [parseMessage_unknown htext hphoto hsticker hgif] at hwp
  apply simulated_of_wp
  rw [parseMessage_unknown_blocks (P := fun ret a => ret = code ∧ BlockOutcome jmsg l code a) htext hphoto hsticker hgif]
  refine ⟨fun hheader => ?_, fun hheader => ?_⟩
  · have hcode := (hwp.1 hheader).1
    subst hcode
    exact ⟨rfl, outcome_of_no_reply (mt hreaches.mp hheader) (Ledger.Accounts.refl l) rfl⟩
  · obtain ⟨harray, reply, hof, hcode, -⟩ := hwp.2 hheader
    obtain ⟨ptr, l', hblocks, houtcome⟩ :=
      hreply (hreaches.mpr hheader) reply hof (obtainArray (entitiesOf jmsg "entities").1 l).2
    subst hcode
    exact ⟨harray, ptr, l', hblocks, rfl, outcome_of_unknown hkind hheader houtcome⟩

/-- Every message that is returned from. -/
lemma simulated_message (h : call (parseMessageWith jmsg replyTo) evt = .ok (code, evt'))
    (hreply : ReachesReply jmsg → ∀ reply, replyTo = .ok reply → ReplySimulated jmsg blocks) :
    Simulated jmsg code (Blocks.parseMessageWith jmsg blocks) l := by
  rcases messageKind_cases jmsg with ⟨text, htext, hkind⟩ | ⟨photos, htext, hphoto, hkind⟩ | ⟨jstk, htext, hphoto, hsticker, hkind⟩ |
    ⟨animation, htext, hphoto, hsticker, hgif, hkind⟩ | ⟨htext, hphoto, hsticker, hgif, hkind⟩
  · exact simulated_text htext hkind h hreply
  · exact simulated_photo htext hphoto hkind h
  · exact simulated_sticker htext hphoto hsticker hkind h hreply
  · exact simulated_gif htext hphoto hsticker hgif hkind h
  · exact simulated_unknown htext hphoto hsticker hgif hkind h hreply

end Message

/-! ### Messages with their replies -/

def replyBlocks (jmsg : Json) (ledger : Ledger) : Except Fault (ReplyPtr × Ledger) :=
  match jmsg.getEx "reply_to_message" with
  | none => .ok (.null, ledger)
  | some res => if res.isNull then .ok (.null, ledger) else Blocks.parseRepliedMsg (Blocks.parseMessageJsonObj res) ledger

lemma parseMessageJsonObj_blocks (jmsg : Json) :
    Blocks.parseMessageJsonObj jmsg = Blocks.parseMessageWith jmsg (replyBlocks jmsg) := by
  rw [Blocks.parseMessageJsonObj]
  congr 1
  funext ledger
  unfold replyBlocks
  split <;> simp_all

section Replies

variable {jmsg res : Json} {l : Ledger}

lemma replyOutcome_none (hnone : ∀ reply, ¬DecodesReply jmsg reply) : ReplyOutcome jmsg l .null l := by
  refine ⟨[], Ledger.Accounts.refl l, ?_, ?_⟩
  · exact ⟨fun _ reply hdecodes => absurd hdecodes (hnone reply), fun _ => ⟨rfl, rfl⟩⟩
  · exact ⟨fun _ reply hstores => hnone reply hstores.1, fun _ => rfl⟩

lemma repliesReleasable_iff (hdecodes : DecodesReply jmsg res) :
    RepliesReleasable jmsg ↔ PhotoOk res ∧ (Acceptable res → AllReleasable res) := by
  constructor
  · exact fun h => h res hdecodes
  · intro h reply hreply
    obtain rfl : res = reply := Option.some.inj (hdecodes.2.1.symm.trans hreply.2.1)
    exact h

lemma photoOk_of_acceptable (haccept : Acceptable res) : PhotoOk res := by
  intro photos hkind
  rw [Acceptable, hkind] at haccept
  exact haccept

/-- An accepted reply is stored with its block. -/
lemma replyOutcome_stored {a : Alloc} (hdecodes : DecodesReply jmsg res) (haccept : Acceptable res)
    (houtcome : BlockOutcome res l.obtain.2 0 a) : ReplyOutcome jmsg l (.node l.obtained a.own) a.ledger := by
  obtain ⟨lost, haccounts, hreleased, -⟩ := houtcome
  refine ⟨lost, (Ledger.Accounts.obtain l).trans haccounts, ?_, ?_⟩
  · rw [keptReply, hreleased rfl, repliesReleasable_iff hdecodes]
    exact ⟨fun h => ⟨photoOk_of_acceptable haccept, fun _ => h⟩, fun h => h.2 haccept⟩
  · exact ⟨fun h => absurd h (List.cons_ne_nil _ _), fun h => absurd ⟨hdecodes, haccept⟩ (h res)⟩

/-- Of a refused reply only its block is freed. -/
lemma replyOutcome_refused {a : Alloc} {code : ℤ} (hdecodes : DecodesReply jmsg res) (hrefused : ¬Acceptable res) (hcode : code ≠ 0)
    (houtcome : BlockOutcome res l.obtain.2 code a) : ReplyOutcome jmsg l .null (a.ledger.free (some l.obtained)) := by
  obtain ⟨lost, haccounts, -, hcases⟩ := houtcome
  obtain ⟨-, rfl, hphoto⟩ := hcases hcode
  rw [List.append_nil] at haccounts
  have hall : l.Accounts a.ledger ((some l.obtained).toList ++ held a.own) := (Ledger.Accounts.obtain l).trans haccounts
  refine ⟨held a.own, hall.free, ?_, ?_⟩
  · rw [hphoto, repliesReleasable_iff hdecodes]
    exact ⟨fun h => ⟨h.2, fun haccept => absurd haccept hrefused⟩, fun h => ⟨rfl, h.1⟩⟩
  · refine ⟨fun _ reply hstores => ?_, fun _ => rfl⟩
    obtain rfl : res = reply := Option.some.inj (hdecodes.2.1.symm.trans hstores.1.2.1)
    exact hrefused hstores.2

lemma replySimulated_decodes {reply : Option Tgev} (hdecodes : DecodesReply jmsg res) (hof : replyOf jmsg = .ok reply)
    (ih : ∀ code evt' l, call (parseMessageJsonObj res) {} = .ok (code, evt') → Simulated res code (Blocks.parseMessageJsonObj res) l) :
    ReplySimulated jmsg (replyBlocks jmsg) := by
  intro l
  have hkey := hdecodes.2.1
  have hnull : ¬res.isNull = true := mt isNull_iff.mp hdecodes.2.2
  rw [replyOf_of_not_null hkey hdecodes.2.2] at hof
  have hblocks : replyBlocks jmsg l = Blocks.parseRepliedMsg (Blocks.parseMessageJsonObj res) l := by
    unfold replyBlocks
    rw [hkey]
    exact if_neg hnull
  cases hcall : call (parseMessageJsonObj res) {} with
  | error e => simp [hcall, parseRepliedMsg] at hof
  | ok decoded =>
    obtain ⟨code, evt'⟩ := decoded
    have haccept := code_eq_zero_iff (parseMessageJsonObj_eq res ▸ hcall)
    obtain ⟨a, hdecoded, houtcome⟩ := ih code evt' l.obtain.2 hcall
    by_cases hcode : code = 0
    · subst hcode
      refine ⟨.node l.obtained a.own, a.ledger, ?_, replyOutcome_stored hdecodes (haccept.mp rfl) houtcome⟩
      rw [hblocks, Blocks.parseRepliedMsg]
      simp only [hdecoded]
      rfl
    · refine ⟨.null, a.ledger.free (some l.obtained), ?_, replyOutcome_refused hdecodes (mt haccept.mpr hcode) hcode houtcome⟩
      rw [hblocks, Blocks.parseRepliedMsg]
      simp only [hdecoded]
      exact if_pos hcode

end Replies

/-- The decoder with blocks returns where the decoder does, with the same code. -/
theorem parseMessageJsonObj_simulated (jmsg : Json) {code : ℤ} {evt evt' : Tgev} (l : Ledger)
    (h : call (parseMessageJsonObj jmsg) evt = .ok (code, evt')) : Simulated jmsg code (Blocks.parseMessageJsonObj jmsg) l := by
  rw [parseMessageJsonObj_blocks]
  rw [parseMessageJsonObj_eq] at h
  apply simulated_message h
  intro hreaches reply hof
  cases hkey : jmsg.getEx "reply_to_message" with
  | none =>
    intro l
    refine ⟨.null, l, by rw [replyBlocks, hkey], replyOutcome_none fun reply hdecodes => ?_⟩
    have hsome := hdecodes.2.1
    rw [hkey] at hsome
    cases hsome
  | some res =>
    by_cases hnull : res = .null
    · intro l
      refine ⟨.null, l, by rw [replyBlocks, hkey, hnull]; rfl, replyOutcome_none fun reply hdecodes => ?_⟩
      exact hdecodes.2.2 (Option.some.inj (hdecodes.2.1.symm.trans hkey) ▸ hnull)
    · have hsize : sizeOf res < sizeOf jmsg := Json.sizeOf_getEx hkey
      exact replySimulated_decodes ⟨hreaches, hkey, hnull⟩ hof
        (fun code evt' l hcall => parseMessageJsonObj_simulated res l hcall)
termination_by sizeOf jmsg

/-! ### Updates -/

/-- The ledger when the event is done with: destroyed by the caller, or refused. -/
def afterwards (code : ℤ) (a : Alloc) : Ledger := if code = 0 then tgEventDestroy a.own a.ledger else a.ledger

/-- The update is not decoded as far as a message, or nothing is left behind on its chain of replies. -/
def UpdateReleasable (update : Json) : Prop :=
  Has update "update_id" → ∀ jmsg, update.getEx "message" = some jmsg → AllReleasable jmsg

lemma balanced_empty : Ledger.Balanced {} := (Ledger.Accounts.refl {}).balanced_iff.mpr rfl

lemma balanced_destroy {own : TgevOwn} {ledger : Ledger} {lost : List ℕ} (h : Ledger.Accounts {} ledger (held own ++ lost)) :
    (tgEventDestroy own ledger).Balanced ↔ kept own = [] ∧ lost = [] := by
  rw [(tgEventDestroy_accounts own h).balanced_iff, List.append_eq_nil_iff]

section Updates

variable {tokener : List UInt8 → Option Json} {jsonStr : List UInt8}

/-- What the caller is given. -/
def loaded (code : ℤ) (a : Alloc) : ℤ × Alloc :=
  if code ≠ 0 then (code, { a with ledger := tgEventDestroy a.own a.ledger }) else (0, a)

lemma loaded_code (code : ℤ) (a : Alloc) : (loaded code a).1 = code := by
  unfold loaded
  by_cases hcode : code ≠ 0
  · rw [if_pos hcode]
  · rw [if_neg hcode]
    exact (not_not.mp hcode).symm

/-- Destroyed once, by the caller or before. -/
lemma afterwards_loaded (code : ℤ) (a : Alloc) : afterwards (loaded code a).1 (loaded code a).2 = tgEventDestroy a.own a.ledger := by
  unfold afterwards loaded
  by_cases hcode : code = 0
  · simp [hcode]
  · simp [hcode]

/-- The part of the loading that an error leaves by destroying the event. -/
def decodeUpdate (update : Json) : Fill Fault Alloc Unit := do
  checked (parseUpdateId update) {}
  Blocks.parseMessage update

lemma checked_next {τ : Type} {m : Fill Fault τ Unit} {t t' : τ} (h : m t = .next () t') (a : Alloc) :
    checked m t a = .next () a := by
  unfold checked
  simp only [Bind.bind, Fill.bind, fresh, call, h]
  rfl

lemma checked_ret {τ : Type} {m : Fill Fault τ Unit} {t t' : τ} {code : ℤ} (h : m t = .ret code t') (hcode : code ≠ 0) (a : Alloc) :
    checked m t a = .ret code a := by
  unfold checked
  simp only [Bind.bind, Fill.bind, fresh, call, h, if_pos hcode]
  rfl

lemma load_blocks {code : ℤ} {a : Alloc} (h : call (decodeUpdate (updateOf tokener jsonStr)) {} = .ok (code, a)) :
    Blocks.tgEventLoadStr tokener jsonStr = .ok (loaded code a) := by
  unfold Blocks.tgEventLoadStr Blocks.internalTgEventLoadStr loaded
  unfold decodeUpdate at h
  simp only [json_eq_updateOf, not_unlikely_neg, if_false, h]
  by_cases hcode : code = 0
  · simp [hcode]
  · simp [hcode]

lemma parseUpdateId_checks (update : Json) : Checks (parseUpdateId update) (Has update "update_id") (-EINVAL) := by
  apply Checks.of_wp
  intro s
  simp +contextual [parseUpdateId, wp_need_field]

/-- Without a message nothing is obtained. -/
lemma decodeUpdate_refused {update : Json} (h : ¬(Has update "update_id" ∧ Has update "message")) :
    decodeUpdate update {} = .ret (-EINVAL) {} := by
  unfold decodeUpdate Blocks.parseMessage
  by_cases hid : Has update "update_id"
  · have hmsg : update.getEx "message" = none := by
      rw [← Option.not_isSome_iff_eq_none]
      exact fun hsome => h ⟨hid, hsome⟩
    rw [hmsg, bind_of_next (checked_next ((parseUpdateId_checks update).next _ hid) {})]
    rfl
  · rw [bind_of_ret (checked_ret ((parseUpdateId_checks update).ret _ hid) einval_ne_zero {})]

lemma call_of_ret {m : Fill Fault Alloc Unit} {code : ℤ} {a a' : Alloc} (h : m a = .ret code a') : call m a = .ok (code, a') := by
  rw [call, h]

lemma decodeUpdate_message {update jmsg : Json} (hid : Has update "update_id") (hmsg : update.getEx "message" = some jmsg) :
    decodeUpdate update {} = Blocks.parseMessageJsonObj jmsg {} := by
  unfold decodeUpdate Blocks.parseMessage
  rw [hmsg, bind_of_next (checked_next ((parseUpdateId_checks update).next _ hid) {})]
  rfl

/-- The ledger after an update. -/
lemma load_outcome {code : ℤ} {evt : Tgev} (hload : tgEventLoadStr tokener jsonStr = .ok (code, evt)) :
    ∃ a, Blocks.tgEventLoadStr tokener jsonStr = .ok (loaded code a) ∧
      ((tgEventDestroy a.own a.ledger).Balanced ↔ UpdateReleasable (updateOf tokener jsonStr)) := by
  rcases load_cases hload with ⟨hid, rfl⟩ | ⟨id, hid, hmsg, rfl⟩ | ⟨id, jmsg, hid, hmsg, hcall⟩
  · refine ⟨{}, load_blocks (call_of_ret (decodeUpdate_refused fun h => absurd h.1 (not_has_of_none hid))), ?_⟩
    exact ⟨fun _ hhas => absurd hhas (not_has_of_none hid), fun _ => balanced_empty⟩
  · refine ⟨{}, load_blocks (call_of_ret (decodeUpdate_refused fun h => absurd h.2 (not_has_of_none hmsg))), ?_⟩
    exact ⟨fun _ _ jmsg hsome => absurd (has_of_some hsome) (not_has_of_none hmsg), fun _ => balanced_empty⟩
  · obtain ⟨a, hdecoded, lost, haccounts, haccepted, hrefused⟩ := parseMessageJsonObj_simulated jmsg {} hcall
    have hreleasable : UpdateReleasable (updateOf tokener jsonStr) ↔ AllReleasable jmsg := by
      simp [UpdateReleasable, has_of_some hid, hmsg]
    refine ⟨a, load_blocks ?_, ?_⟩
    · rw [call, decodeUpdate_message (has_of_some hid) hmsg]
      exact hdecoded
    rw [balanced_destroy haccounts, hreleasable]
    by_cases hcode : code = 0
    · exact haccepted hcode
    · have hnot : ¬Acceptable jmsg := mt (code_eq_zero_iff (parseMessageJsonObj_eq jmsg ▸ hcall)).mpr hcode
      obtain ⟨hkept, hlost, -⟩ := hrefused hcode
      exact ⟨fun _ => allReleasable_of_not_reaches (mt acceptable_of_reaches hnot), fun _ => ⟨hkept, hlost⟩⟩

end Updates

/-- Every block is freed exactly once, by the destruction of an accepted event or before a refused one is
returned, exactly if no unknown message and no refused photo among the replies holds one. -/
theorem blocks_balanced_iff (tokener : List UInt8 → Option Json) (jsonStr : List UInt8) (code : ℤ) (evt : Tgev)
    (hload : tgEventLoadStr tokener jsonStr = .ok (code, evt)) :
    ∃ a, Blocks.tgEventLoadStr tokener jsonStr = .ok (code, a) ∧
      ((afterwards code a).Balanced ↔ ∀ update, tokener (cString jsonStr ++ [0]) = some update → UpdateReleasable update) := by
  obtain ⟨a, hblocks, hbalanced⟩ := load_outcome hload
  refine ⟨(loaded code a).2, ?_, ?_⟩
  · have hpair : loaded code a = (code, (loaded code a).2) := Prod.ext (loaded_code code a) rfl
    rw [hblocks, ← hpair]
  · have hafter := afterwards_loaded code a
    rw [loaded_code] at hafter
    rw [hafter, hbalanced, updateOf]
    cases tokener (cString jsonStr ++ [0]) with
    | none => simp [UpdateReleasable, Has, Json.getEx]
    | some update => simp

/-! Replies to a text: a text, and a voice message, which the decoder does not know. -/

def replyHeader : List (List UInt8 × Json) :=
  [(ascii "message_id", .int 7),
   (ascii "from", .object [(ascii "id", .int 1), (ascii "first_name", .string (ascii "a"))]),
   (ascii "chat", .object
     [(ascii "id", .int (-5)), (ascii "type", .string (ascii "supergroup")), (ascii "title", .string (ascii "t"))]),
   (ascii "date", .int 9)]

def repliedText : Json := .object ((ascii "text", .string (ascii "x")) :: replyHeader)

def replyMessage (key : String) : Json :=
  .object ((ascii key, .string (ascii "y")) :: replyHeader ++ [(ascii "reply_to_message", repliedText)])

def replyUpdate (key : String) : Json := .object [(ascii "update_id", .int 2), (ascii "message", replyMessage key)]

def repliedTextEvent : Tgev := { msg := .text (textOf repliedText (.string (ascii "x")) none) }

lemma repliedText_event : call (parseMessageJsonObj repliedText) {} = .ok (0, repliedTextEvent) := by
  rw [parseMessageJsonObj_eq]
  rfl

lemma repliedText_blocks (l : Ledger) :
    call (Blocks.parseMessageJsonObj repliedText) { ledger := l } = .ok (0, ⟨.text 0 none .null, l⟩) := by
  rw [parseMessageJsonObj_blocks]
  rfl

lemma repliedText_releasable : AllReleasable repliedText := by
  rw [allReleasable_iff]
  refine ⟨fun hkind => (by cases hkind), fun reply hdecodes => ?_⟩
  have hkey : repliedText.getEx "reply_to_message" = none := rfl
  have hsome := hdecodes.2.1
  rw [hkey] at hsome
  cases hsome

theorem textReply_balanced :
    ∃ evt a, tgEventLoadStr (textTokener (replyUpdate "text")) (replyUpdate "text").toJsonString = .ok (0, evt) ∧
      Blocks.tgEventLoadStr (textTokener (replyUpdate "text")) (replyUpdate "text").toJsonString = .ok (0, a) ∧
      (afterwards 0 a).Balanced := by
  have htok := textTokener_self (replyUpdate "text") (by decide +kernel)
  have hreply : replyOf (replyMessage "text") = .ok (some { repliedTextEvent with isRepliedNode := true }) := by
    have hof : replyOf (replyMessage "text") = parseRepliedMsg (call (parseMessageJsonObj repliedText) {}) := rfl
    rw [hof, repliedText_event]
    rfl
  have hload : tgEventLoadStr (textTokener (replyUpdate "text")) (replyUpdate "text").toJsonString = .ok (0,
      { updateId := 2, msg := .text (textOf (replyMessage "text") (.string (ascii "y"))
        (some { repliedTextEvent with isRepliedNode := true })) }) := by
    rw [load_message htok rfl rfl, parseMessageJsonObj_eq, hreply]
    rfl
  obtain ⟨a, hblocks, hbalanced⟩ := blocks_balanced_iff _ _ _ _ hload
  refine ⟨_, a, hload, hblocks, hbalanced.mpr fun update hupdate => ?_⟩
  obtain rfl : replyUpdate "text" = update := Option.some.inj (htok.symm.trans hupdate)
  rintro - jmsg hmsg
  obtain rfl : replyMessage "text" = jmsg := Option.some.inj hmsg
  rw [allReleasable_iff]
  refine ⟨fun hkind => (by cases hkind), fun reply hdecodes => ?_⟩
  obtain rfl : repliedText = reply := Option.some.inj hdecodes.2.1
  exact ⟨fun photos hkind => (by cases hkind), fun _ => repliedText_releasable⟩

/-- The event that the voice message replies to is never freed. -/
theorem voiceReply_leaks :
    let a : Alloc := ⟨.unknown 0 none (.node 0 (.text 0 none .null)), ⟨1, []⟩⟩
    Blocks.tgEventLoadStr (textTokener (replyUpdate "voice")) (replyUpdate "voice").toJsonString = .ok (0, a) ∧
      (afterwards 0 a).obtained = 1 ∧ (afterwards 0 a).freed = [] ∧ ¬(afterwards 0 a).Balanced := by
  have htok := textTokener_self (replyUpdate "voice") (by decide +kernel)
  have hreply : replyBlocks (replyMessage "voice") {} = .ok (.node 0 (.text 0 none .null), ⟨1, []⟩) := by
    have hof : replyBlocks (replyMessage "voice") {} = Blocks.parseRepliedMsg (Blocks.parseMessageJsonObj repliedText) {} := rfl
    rw [hof, Blocks.parseRepliedMsg]
    simp only [repliedText_blocks]
    rfl
  have hheader : HeaderOk (replyMessage "voice") := by
    refine ⟨⟨by decide, _, rfl, by decide, by decide⟩, ⟨fun jfrom hfrom => (by cases hfrom), by decide⟩, ⟨_, rfl, ?_⟩,
      fun jchat hchat => (by cases hchat), by decide⟩
    exact ⟨by decide, (by decide : Has _ "title")⟩
  have harray : ArrayAt (replyMessage "voice") "entities" := fun res hres => (by cases hres)
  have hcall : call (Blocks.parseMessageWith (replyMessage "voice") (replyBlocks (replyMessage "voice"))) {} =
      .ok (0, ⟨.unknown 0 none (.node 0 (.text 0 none .null)), ⟨1, []⟩⟩) := by
    rw [call_eq_ok_iff, parseMessage_unknown_blocks (P := fun ret a => ret = 0 ∧ a = _) rfl rfl rfl rfl]
    exact ⟨fun hnot => absurd hheader hnot, fun _ => ⟨harray, _, _, hreply, rfl, rfl⟩⟩
  refine ⟨?_, rfl, rfl, fun hbalanced => absurd (hbalanced 0) (by decide)⟩
  have hupdate : updateOf (textTokener (replyUpdate "voice")) (replyUpdate "voice").toJsonString = replyUpdate "voice" := by
    rw [updateOf, htok, Option.getD_some]
  rw [← parseMessageJsonObj_blocks] at hcall
  have hdecoded : call (decodeUpdate (updateOf (textTokener (replyUpdate "voice")) (replyUpdate "voice").toJsonString)) {} =
      .ok (0, ⟨.unknown 0 none (.node 0 (.text 0 none .null)), ⟨1, []⟩⟩) := by
    rw [hupdate, call, decodeUpdate_message (by decide) rfl]
    exact hcall
  exact load_blocks hdecoded

end GNUWeebBot.Proofs
