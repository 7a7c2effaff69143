import GNUWeebBot.Lib.Entity
import GNUWeebBot.Proofs.HtmlText

/-!
# Escaped text is safe and can be read back

Where the output has room for the whole text, what `htmlspecialchars` produces is the text
with the four entities of its table. A reader of HTML that knows these entities gets the
text back, and finds no tag and no quote in it.
-/

namespace GNUWeebBot.Proofs

/-- The entities of `htmlspecialchars` with the bytes they stand for. -/
def htmlEntities : Entity.Table UInt8 where
  mark := 38
  refs := [(ascii "&lt;", 60), (ascii "&gt;", 62), (ascii "&quot;", 34), (ascii "&amp;", 38)]
  starts := by decide
  once := by decide
  apart := by decide

lemma escapes_htmlMap : Entity.Escapes htmlEntities htmlMap := by
  constructor
  intro c
  by_cases hlt : c = 60
  · subst hlt
    exact Or.inl (by decide)
  · by_cases hgt : c = 62
    · subst hgt
      exact Or.inl (by decide)
    · by_cases hquot : c = 34
      · subst hquot
        exact Or.inl (by decide)
      · by_cases hamp : c = 38
        · subst hamp
          exact Or.inl (by decide)
        · refine Or.inr ⟨?_, hamp⟩
          simp only [htmlMap, if_neg hlt, if_neg hgt, if_neg hquot, if_neg hamp]

/-- The `ret - 1` bytes that `htmlspecialchars` produces at `off`. -/
def htmlOutput (b : Buf) (off outlen : ℕ) (input : List UInt8) : List UInt8 :=
  let r := htmlspecialchars b off outlen input
  r.1.read off (r.2 - 1).toNat

lemma htmlOutput_eq (b : Buf) (off : ℕ) {outlen : ℕ} {input : List UInt8}
    (h : (input.flatMap htmlMap).length + 1 < outlen) : htmlOutput b off outlen input = input.flatMap htmlMap := by
  obtain ⟨b₁, hstores, hrun⟩ := htmlspecialchars_pos b off input (by omega : 0 < outlen)
  have hcode : escaped outlen input = input.flatMap htmlMap := Cut.code_of_le htmlMap (by omega)
  have hend := escapedEnd_of_lt (by omega : (input.flatMap htmlMap).length < outlen)
  have hlen : (escapedEnd outlen input + 1 - 1).toNat = (input.flatMap htmlMap).length := by
    rw [hend]
    omega
  have hbehind : off + (input.flatMap htmlMap).length ≤ (off + (escapedEnd outlen input + 1)).toNat := by
    rw [hend]
    omega
  have hread := hstores.read
  rw [hcode] at hread
  unfold htmlOutput
  simp only [hrun, hlen]
  rw [Buf.read_put_of_le b₁ [0] hbehind, hread]

/-- Escaping is lossless and safe: no `<`, `>` or `"` is left, each `&` starts an entity,
the entities decode to the input, and no other input leads to the same bytes. -/
theorem html_escaping_lossless (b : Buf) (off : ℕ) {outlen : ℕ} {input : List UInt8}
    (h : (input.flatMap htmlMap).length + 1 < outlen) :
    (60 ∉ htmlOutput b off outlen input ∧ 62 ∉ htmlOutput b off outlen input ∧
      34 ∉ htmlOutput b off outlen input) ∧
    Entity.MarksStart htmlEntities (htmlOutput b off outlen input) ∧
    Entity.decode htmlEntities (htmlOutput b off outlen input) = input ∧
    ∀ (b' : Buf) (off' outlen' : ℕ) (input' : List UInt8), (input'.flatMap htmlMap).length + 1 < outlen' →
      htmlOutput b' off' outlen' input' = htmlOutput b off outlen input → input' = input := by
  rw [htmlOutput_eq b off h]
  refine ⟨⟨?_, ?_, ?_⟩, escapes_htmlMap.marksStart input, escapes_htmlMap.decode_flatMap input, ?_⟩
  · exact escapes_htmlMap.not_mem (by decide) (by decide) input
  · exact escapes_htmlMap.not_mem (by decide) (by decide) input
  · exact escapes_htmlMap.not_mem (by decide) (by decide) input
  · intro b' off' outlen' input' h' hsame
    rw [htmlOutput_eq b' off' h'] at hsame
    exact escapes_htmlMap.injective hsame

/-- A text that looks like an entity already. -/
theorem html_escaping_lossless_entity :
    Entity.decode htmlEntities (htmlOutput (Buf.fresh fun _ => 255) 3 16 (ascii "&lt;<")) = ascii "&lt;<" :=
  (html_escaping_lossless (Buf.fresh fun _ => 255) 3 (by decide)).2.2.1

end GNUWeebBot.Proofs
