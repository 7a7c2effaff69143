import GNUWeebBot.Model.Modules
import GNUWeebBot.Proofs.HtmlEntities
import GNUWeebBot.Proofs.JsonFormat

/-!
# The reply of the debug module

The update that the bot got, as formatted JSON that is escaped for HTML. The reply stays in its buffer and is
never cut a second time in the body of its message, and an update that fits can be read back from the chat.
-/

namespace GNUWeebBot.Proofs

open Fill FormUrl GNUWeebBot.Debug

/-- What is shown of the JSON. -/
def debugShown (jsonPretty : List UInt8) : List UInt8 :=
  let input := (cString jsonPretty).take hlen
  (escaped hlen input).take (escapedEnd hlen input).toNat

def debugReplyText (jsonPretty : List UInt8) : List UInt8 := ascii "<pre>" ++ debugShown jsonPretty ++ ascii "</pre>"

lemma debugShown_length (jsonPretty : List UInt8) : (debugShown jsonPretty).length ≤ 6141 := by
  have hcode := length_escaped_le hlen ((cString jsonPretty).take hlen)
  have hhlen : hlen = 6141 := rfl
  unfold debugShown
  rw [List.length_take]
  omega

lemma debugReplyText_length (jsonPretty : List UInt8) : (debugReplyText jsonPretty).length ≤ 6152 := by
  have hshown := debugShown_length jsonPretty
  have hopen : (ascii "<pre>").length = 5 := rfl
  have hclose : (ascii "</pre>").length = 6 := rfl
  rw [debugReplyText, List.length_append, List.length_append]
  omega

lemma zero_not_mem_cString (bytes : List UInt8) : 0 ∉ cString bytes :=
  fun hmem => absurd (List.mem_takeWhile_imp hmem) (by decide)

lemma escaped_clean {input : List UInt8} (hinput : 0 ∉ input) (outlen : ℕ) : 0 ∉ escaped outlen input := by
  intro hmem
  obtain ⟨c, hc, hin⟩ := List.mem_flatMap.mp hmem
  rcases htmlMap_cases c with h | ⟨-, -, hzero, -⟩
  · rw [h, List.mem_singleton] at hin
    exact hinput (hin ▸ List.mem_of_mem_take hc)
  · exact hzero hin

lemma zero_not_mem_debugReplyText (jsonPretty : List UInt8) : 0 ∉ debugReplyText jsonPretty := by
  have hopen : 0 ∉ ascii "<pre>" := by decide
  have hclose : 0 ∉ ascii "</pre>" := by decide
  have hinput : 0 ∉ (cString jsonPretty).take hlen := fun hmem => zero_not_mem_cString jsonPretty (List.mem_of_mem_take hmem)
  have hshown : 0 ∉ debugShown jsonPretty := fun hmem => escaped_clean hinput hlen (List.mem_of_mem_take hmem)
  simp only [debugReplyText, List.mem_append, hopen, hclose, hshown, or_self, not_false_eq_true]

/-- The closing tag covers the terminator that `htmlspecialchars` leaves one byte too far. -/
lemma putReply_spec {b : Buf} (hin : b.Within replySize) (jsonPretty : List UInt8) :
    (putReply b jsonPretty).Holds (debugReplyText jsonPretty ++ [0]) ∧ (putReply b jsonPretty).Within replySize := by
  have hhlen : hlen = 6141 := rfl
  have hsize : replySize = 36864 := rfl
  have hopen : (ascii "<pre>").length = 5 := rfl
  have hclose : (ascii "</pre>").length = 6 := rfl
  unfold putReply debugReplyText debugShown
  dsimp only
  generalize (cString jsonPretty).take hlen = input
  have hcode := length_escaped_le hlen input
  have hnonneg := escapedEnd_nonneg (show 6 ≤ hlen by omega) input
  have hlt := escapedEnd_lt (show 0 < hlen by omega) input
  have hle : escapedEnd hlen input ≤ (escaped hlen input).length := by
    unfold escapedEnd htmlRollBack
    split <;> omega
  obtain ⟨n, hn⟩ : ∃ n : ℕ, escapedEnd hlen input = n := ⟨_, (Int.toNat_of_nonneg hnonneg).symm⟩
  obtain ⟨b₁, hstores, hrun⟩ := htmlspecialchars_pos (b.put 0 (ascii "<pre>")) 5 input (show 0 < hlen by omega)
  rw [hrun, hn]
  dsimp only
  have hend : (((5 : ℕ) : ℤ) + (n + 1)).toNat = 5 + n + 1 := by omega
  have hat : ((5 : ℤ) + (n + 1) - 1).toNat = 5 + n := by omega
  have htag : (b.put 0 (ascii "<pre>")).Holds (ascii "<pre>") := b.holds_nil.put (ascii "<pre>")
  have hheld : b₁.Holds (ascii "<pre>" ++ (escaped hlen input).take n) := by
    have hall := htag.stores hstores
    rw [← List.take_append_drop n (escaped hlen input), ← List.append_assoc] at hall
    exact hall.of_append
  have hpos : (ascii "<pre>" ++ (escaped hlen input).take n).length = 5 + n := by
    rw [List.length_append, List.length_take, hopen]
    omega
  rw [hend, hat, Int.toNat_natCast]
  constructor
  · have hbehind := hheld.put_behind (show _ ≤ 5 + n + 1 by omega) [0]
    have hclosed := hbehind.put (ascii "</pre>")
    rw [hpos] at hclosed
    have hall := hclosed.put [0]
    rw [List.length_append, hpos, hclose] at hall
    exact hall
  · rw [Buf.within_put, Buf.within_put, Buf.within_put, hstores.within, Buf.within_put, hclose, hopen, List.length_singleton]
    exact ⟨by omega, by omega, by omega, ⟨by omega, hin⟩, Or.inr (by omega)⟩

/-! ### The body of the message -/

/-- A text that is short enough is sent as a whole. -/
lemma sendMsg_whole (ctx : TgaSendMsg) (junk : ℕ → UInt8) (hlen : ctx.text.length ≤ 8586) :
    formDecode ((tgaSendMsg (Buf.fresh junk) ctx).cstr 0 sendMsgSpace) = sendMsgFields ctx ctx.text := by
  have hhead := sendMsgHead_length ctx
  have hne : sendMsgFields ctx (urlencoded true ctx.text) ≠ [] := List.cons_ne_nil _ _
  obtain ⟨hbody, -⟩ := tgaSendMsg_spec ctx (Buf.within_fresh junk sendMsgSpace)
  rw [hbody, List.take_of_length_le (by omega), sendMsgHead_append,
    formDecode_join hne (sendMsgFields_clean ctx (clean_urlencoded _)), sendMsgFields_decode, percentDecode_urlencoded]

/-- What the debug module makes of its command: one message, which is a whole body. The update is read back from what
the chat shows, where its escaped text is shorter than `hlen`. -/
structure ShowsUpdate (evt : TgevText Tgev) (json : Json) (w w' : BotWorld) (reply : List UInt8) : Prop where
  sent : w' = w.called (.api (.sendMessage evt.header.chat.id evt.header.msgId reply))
  whole : ∀ (ctx : TgaSendMsg) (junk : ℕ → UInt8), ctx.text = reply →
    formDecode ((tgaSendMsg (Buf.fresh junk) ctx).cstr 0 sendMsgSpace) = sendMsgFields ctx reply
  readable : json.doublesOk = true → ((json.toJsonStringExt jsonFlags 0).flatMap htmlMap).length < hlen →
    ∃ code v, reply = ascii "<pre>" ++ code ++ ascii "</pre>" ∧ 60 ∉ code ∧ 62 ∉ code ∧ json.value? = some v ∧
      JsonText.parse (Entity.decode htmlEntities code) = some v

lemma length_le_flatMap_htmlMap (text : List UInt8) : text.length ≤ (text.flatMap htmlMap).length := by
  induction text with
  | nil => exact Nat.le_refl _
  | cons c text ih =>
    have hc := (htmlMap_length c).1
    rw [List.flatMap_cons, List.length_append, List.length_cons]
    omega

lemma debugShown_of_fits {json : Json} {v : JsonText.Value} (hv : json.value? = some v)
    (hfits : ((json.toJsonStringExt jsonFlags 0).flatMap htmlMap).length < hlen) :
    debugShown (json.toJsonStringExt jsonFlags 0) =
      (json.toJsonStringExt jsonFlags 0).flatMap htmlMap := by
  have hzero := zero_not_mem_toJsonStringExt jsonFlags 0 hv
  generalize json.toJsonStringExt jsonFlags 0 = text at hzero hfits
  have hle := length_le_flatMap_htmlMap text
  have hcode : escaped hlen text = text.flatMap htmlMap := Cut.code_of_le htmlMap (Nat.le_of_lt hfits)
  unfold debugShown
  dsimp only
  rw [cString_self hzero, List.take_of_length_le (show text.length ≤ hlen by omega), hcode, escapedEnd_of_lt hfits,
    Int.toNat_natCast]
  exact List.take_length

lemma debug_readable (json : Json) (hdoubles : json.doublesOk = true)
    (hfits : ((json.toJsonStringExt jsonFlags 0).flatMap htmlMap).length < hlen) :
    ∃ code v, debugReplyText (json.toJsonStringExt jsonFlags 0) = ascii "<pre>" ++ code ++ ascii "</pre>" ∧
      60 ∉ code ∧ 62 ∉ code ∧ json.value? = some v ∧ JsonText.parse (Entity.decode htmlEntities code) = some v := by
  rw [← value?_isSome, Option.isSome_iff_exists] at hdoubles
  obtain ⟨v, hv⟩ := hdoubles
  refine ⟨_, v, rfl, ?_⟩
  rw [debugShown_of_fits hv hfits]
  refine ⟨?_, ?_, hv, ?_⟩
  · exact escapes_htmlMap.not_mem (by decide) (by decide) _
  · exact escapes_htmlMap.not_mem (by decide) (by decide) _
  · rw [escapes_htmlMap.decode_flatMap, toJsonStringExt_eq jsonFlags 0 json v hv]
    exact JsonText.parse_print (jsonStyle jsonFlags) 0 v

end GNUWeebBot.Proofs
