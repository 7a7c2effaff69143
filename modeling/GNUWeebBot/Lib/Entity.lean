import Mathlib.Data.List.Basic
import Mathlib.Data.List.Infix
import Mathlib.Tactic.Common

/-!
# Texts with character references

A reference starts with a mark, which is in no reference a second time, and no reference
is the start of another one. A text is decoded from its start: where it goes on with a
reference, it is the character of the reference, and else the next character is itself.
-/

namespace Entity

variable {α : Type*} [DecidableEq α]

/-- The references with the characters they stand for. -/
structure Table (α : Type*) where
  mark : α
  refs : List (List α × α)
  starts : ∀ e ∈ refs, e.1.head? = some mark
  once : ∀ e ∈ refs, mark ∉ e.1.tail
  apart : ∀ e ∈ refs, ∀ e' ∈ refs, e.1 <+: e'.1 → e = e'

variable (t : Table α)

/-- The reference a text starts with. -/
def refAt (text : List α) : Option (List α × α) := t.refs.find? (fun e => e.1.isPrefixOf text)

/-- The text behind its first `skip` characters, which belong to a reference. -/
def decodeFrom : ℕ → List α → List α
  | _, [] => []
  | skip + 1, _ :: rest => decodeFrom skip rest
  | 0, c :: rest =>
    match refAt t (c :: rest) with
    | some e => e.2 :: decodeFrom (e.1.length - 1) rest
    | none => c :: decodeFrom 0 rest

def decode (text : List α) : List α := decodeFrom t 0 text

/-- Each mark in the text is the start of a reference. -/
def MarksStart (text : List α) : Prop :=
  ∀ front rest, text = front ++ t.mark :: rest → ∃ e ∈ t.refs, e.1 <+: t.mark :: rest

/-- Characters without a reference, which are themselves, and characters by their references. -/
structure Escapes (t : Table α) (esc : α → List α) : Prop where
  cases : ∀ c, (esc c, c) ∈ t.refs ∨ (esc c = [c] ∧ c ≠ t.mark)

variable {t} {esc : α → List α}

omit [DecidableEq α] in
lemma exists_tail {e : List α × α} (he : e ∈ t.refs) : ∃ w, e.1 = t.mark :: w :=
  List.head?_eq_some_iff.mp (t.starts e he)

lemma refAt_ref {e : List α × α} (he : e ∈ t.refs) (rest : List α) : refAt t (e.1 ++ rest) = some e := by
  have hstart : e.1.isPrefixOf (e.1 ++ rest) = true := List.isPrefixOf_iff_prefix.mpr (List.prefix_append _ _)
  cases hfind : refAt t (e.1 ++ rest) with
  | none => exact absurd hstart (List.find?_eq_none.mp hfind e he)
  | some e' =>
    have he' : e' ∈ t.refs := List.mem_of_find?_eq_some hfind
    have hfound : e'.1.isPrefixOf (e.1 ++ rest) = true :=
      List.find?_some (p := fun e : List α × α => e.1.isPrefixOf _) hfind
    have hstart' : e'.1 <+: e.1 ++ rest := List.isPrefixOf_iff_prefix.mp hfound
    rcases List.prefix_or_prefix_of_prefix hstart' (List.prefix_append e.1 rest) with h | h
    · rw [t.apart e' he' e he h]
    · rw [t.apart e he e' he' h]

lemma refAt_plain {c : α} (hc : c ≠ t.mark) (rest : List α) : refAt t (c :: rest) = none := by
  apply List.find?_eq_none.mpr
  intro e he hstart
  obtain ⟨w, hw⟩ := exists_tail he
  rw [hw, List.isPrefixOf_iff_prefix, List.cons_prefix_cons] at hstart
  exact hc hstart.1.symm

lemma decodeFrom_append (w rest : List α) : decodeFrom t w.length (w ++ rest) = decodeFrom t 0 rest := by
  induction w with
  | nil => rfl
  | cons c w ih => exact ih

lemma decode_ref {e : List α × α} (he : e ∈ t.refs) (rest : List α) :
    decode t (e.1 ++ rest) = e.2 :: decode t rest := by
  have href := refAt_ref he rest
  obtain ⟨w, hw⟩ := exists_tail he
  unfold decode
  rw [hw, List.cons_append] at href ⊢
  simp only [decodeFrom, href, hw, List.length_cons, Nat.add_sub_cancel, decodeFrom_append]

lemma decode_plain {c : α} (hc : c ≠ t.mark) (rest : List α) : decode t (c :: rest) = c :: decode t rest := by
  unfold decode
  simp only [decodeFrom, refAt_plain hc rest]

/-- Decoding an escaped text gives back the text, whatever looks like a reference in it. -/
theorem Escapes.decode_flatMap (h : Escapes t esc) (s : List α) : decode t (s.flatMap esc) = s := by
  induction s with
  | nil => rfl
  | cons c s ih =>
    rw [List.flatMap_cons]
    rcases h.cases c with href | ⟨hplain, hc⟩
    · rw [decode_ref href, ih]
    · rw [hplain, List.singleton_append, decode_plain hc, ih]

theorem Escapes.injective (h : Escapes t esc) : Function.Injective (fun s : List α => s.flatMap esc) :=
  Function.LeftInverse.injective h.decode_flatMap

omit [DecidableEq α] in
theorem Escapes.marksStart (h : Escapes t esc) (s : List α) : MarksStart t (s.flatMap esc) := by
  induction s with
  | nil =>
    intro front rest htext
    exact absurd htext.symm (List.append_ne_nil_of_right_ne_nil front (List.cons_ne_nil _ _))
  | cons c s ih =>
    intro front rest htext
    rw [List.flatMap_cons, List.append_eq_append_iff] at htext
    rcases htext with ⟨front', -, hrest⟩ | ⟨back, hesc, hback⟩
    · exact ih front' rest hrest
    · cases back with
      | nil => exact ih [] rest hback.symm
      | cons x back =>
        obtain ⟨rfl, hrest⟩ := List.cons.inj (hback.trans (List.cons_append))
        rcases h.cases c with href | ⟨hplain, hc⟩
        · cases front with
          | nil =>
            refine ⟨_, href, ?_⟩
            rw [hesc, List.nil_append, hrest]
            exact List.prefix_append _ _
          | cons y front =>
            have hmem : t.mark ∈ (esc c).tail := by
              rw [hesc]
              exact List.mem_append_right front List.mem_cons_self
            exact absurd hmem (t.once _ href)
        · have hmem : t.mark ∈ esc c := by
            rw [hesc]
            exact List.mem_append_right front List.mem_cons_self
          rw [hplain, List.mem_singleton] at hmem
          exact absurd hmem.symm hc

omit [DecidableEq α] in
/-- A character that has a reference and is in no reference is in no escaped text. -/
theorem Escapes.not_mem (h : Escapes t esc) {x : α} (hx : ∀ e ∈ t.refs, x ∉ e.1) (hesc : esc x ≠ [x]) (s : List α) :
    x ∉ s.flatMap esc := by
  intro hmem
  obtain ⟨c, -, hc⟩ := List.mem_flatMap.mp hmem
  rcases h.cases c with href | ⟨hplain, -⟩
  · exact hx _ href hc
  · rw [hplain, List.mem_singleton] at hc
    subst hc
    exact hesc hplain

end Entity
