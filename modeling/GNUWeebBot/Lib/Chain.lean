import Mathlib.Data.List.Basic
import Mathlib.Logic.Function.Basic
import Mathlib.Tactic.Common

/-!
# Chains of nodes

A node is found at an address and points to the next one; `next a` is nothing where no
node is, and `some none` where the node at `a` has a null pointer.
-/

namespace Chain

variable {α : Type*}

/-- Following the pointers from `p` visits exactly the nodes at `as` and arrives at `q`. -/
def Segment (next : α → Option (Option α)) : Option α → List α → Option α → Prop
  | p, [], q => p = q
  | p, a :: as, q => p = some a ∧ ∃ p', next a = some p' ∧ Segment next p' as q

/-- A chain that ends with a null pointer. -/
def Linked (next : α → Option (Option α)) (p : Option α) (as : List α) : Prop := Segment next p as none

variable {next next' : α → Option (Option α)} {p q : Option α} {as bs : List α}

lemma segment_append : Segment next p (as ++ bs) q ↔ ∃ r, Segment next p as r ∧ Segment next r bs q := by
  induction as generalizing p with
  | nil => simp [Segment]
  | cons a as ih =>
    simp only [List.cons_append, Segment, ih]
    constructor
    · rintro ⟨hp, p', hnext, r, has, hbs⟩
      exact ⟨r, ⟨hp, p', hnext, has⟩, hbs⟩
    · rintro ⟨r, ⟨hp, p', hnext, has⟩, hbs⟩
      exact ⟨hp, p', hnext, r, has, hbs⟩

/-- A chain depends on its own nodes only. -/
lemma Segment.congr (h : Segment next p as q) (hagree : ∀ a ∈ as, next' a = next a) : Segment next' p as q := by
  induction as generalizing p with
  | nil => exact h
  | cons a as ih =>
    obtain ⟨hp, p', hnext, has⟩ := h
    have ha := hagree a List.mem_cons_self
    exact ⟨hp, p', ha.trans hnext, ih has (fun b hb => hagree b (List.mem_cons_of_mem a hb))⟩

/-- The nodes on a chain are determined by where it starts. -/
lemma Linked.unique (ha : Linked next p as) (hb : Linked next p bs) : as = bs := by
  induction as generalizing p bs with
  | nil =>
    cases bs with
    | nil => rfl
    | cons b bs =>
      obtain ⟨hp, -⟩ := hb
      exact absurd (ha.symm.trans hp) (Option.some_ne_none b).symm
  | cons a as ih =>
    obtain ⟨hp, p', hnext, has⟩ := ha
    cases bs with
    | nil => exact absurd (hp.symm.trans hb) (Option.some_ne_none a)
    | cons b bs =>
      obtain ⟨hp', r, hnext', hbs⟩ := hb
      have hab : a = b := Option.some_inj.mp (hp.symm.trans hp')
      subst hab
      have hr : p' = r := Option.some_inj.mp (hnext.symm.trans hnext')
      subst hr
      rw [ih has hbs]

lemma linked_nil_iff : Linked next p [] ↔ p = none := Iff.rfl

lemma linked_head (h : Linked next p as) : p = as.head? := by
  cases as with
  | nil => exact h
  | cons a as => exact h.1

/-- A new node behind the last one. -/
lemma Linked.snoc {a b : α} (h : Linked next p (as ++ [a])) (hagree : ∀ x ∈ as, next' x = next x)
    (ha : next' a = some (some b)) (hb : next' b = some none) : Linked next' p (as ++ [a] ++ [b]) := by
  obtain ⟨r, has, hlast⟩ := segment_append.mp h
  have hr : r = some a := hlast.1
  have hfront : Segment next' p (as ++ [a]) (some b) :=
    segment_append.mpr ⟨r, has.congr hagree, hr, some b, ha, rfl⟩
  exact segment_append.mpr ⟨some b, hfront, rfl, none, hb, rfl⟩

lemma Linked.next_last {a : α} (h : Linked next p (as ++ [a])) : next a = some none := by
  obtain ⟨r, -, -, p', hnext, hnull⟩ := segment_append.mp h
  exact hnull ▸ hnext

/-! ### Links in both directions -/

/-- The nodes that are visited from `p`. -/
inductive Visited (next : α → Option (Option α)) : Option α → α → Prop
  | here (a : α) : Visited next (some a) a
  | later {a b : α} {p : Option α} : next a = some p → Visited next p b → Visited next (some a) b

/-- Each node points back to the one before it, and the first one to `r`. -/
def Backward (prev : α → Option (Option α)) : Option α → List α → Prop
  | _, [] => True
  | r, a :: as => prev a = some r ∧ Backward prev (some a) as

/-- Going back from a node undoes going on to it, between null pointers at both ends. -/
structure Doubly (next prev : α → Option (Option α)) (head tail : Option α) : Prop where
  head_prev : ∀ a, head = some a → prev a = some none
  tail_next : ∀ a, tail = some a → next a = some none
  inverse : ∀ x y, Visited next head x → Visited next head y → (next x = some (some y) ↔ prev y = some (some x))
  prev_visited : ∀ x y, Visited next head y → prev y = some (some x) → Visited next head x

variable {prev prev' : α → Option (Option α)} {r head tail : Option α} {x y : α}

lemma Linked.visited_iff (h : Linked next p as) : Visited next p x ↔ x ∈ as := by
  induction as generalizing p with
  | nil =>
    rw [linked_nil_iff] at h
    subst h
    exact iff_of_false (fun hx => nomatch hx) List.not_mem_nil
  | cons a as ih =>
    obtain ⟨rfl, p', hnext, hrest⟩ := h
    rw [List.mem_cons, ← ih hrest]
    constructor
    · intro hx
      cases hx with
      | here => exact Or.inl rfl
      | later hnext' hlater =>
        rw [hnext, Option.some_inj] at hnext'
        exact Or.inr (hnext' ▸ hlater)
    · rintro (rfl | hx)
      · exact .here x
      · exact .later hnext hx

lemma Backward.congr (h : Backward prev r as) (hagree : ∀ a ∈ as, prev' a = prev a) : Backward prev' r as := by
  induction as generalizing r with
  | nil => trivial
  | cons a as ih =>
    have ha := hagree a List.mem_cons_self
    exact ⟨ha.trans h.1, ih h.2 (fun b hb => hagree b (List.mem_cons_of_mem a hb))⟩

lemma backward_concat {b : α} :
    Backward prev r (as ++ [b]) ↔ Backward prev r as ∧ prev b = some (as.getLast?.or r) := by
  induction as generalizing r with
  | nil => simp [Backward]
  | cons a as ih =>
    have hlast : (a :: as).getLast?.or r = as.getLast?.or (some a) := by
      rw [List.getLast?_cons]
      cases as.getLast? <;> rfl
    rw [List.cons_append, Backward, Backward, ih, hlast, and_assoc]

/-- Two neighbours at the front of a list, or behind it. -/
lemma neighbours_cons {a : α} : [x, y] <:+: a :: as ↔ (x = a ∧ as.head? = some y) ∨ [x, y] <:+: as := by
  rw [List.infix_cons_iff, List.cons_prefix_cons]
  apply or_congr_left
  apply and_congr_right'
  cases as with
  | nil => simp
  | cons b as =>
    rw [List.cons_prefix_cons, List.head?_cons, Option.some_inj, and_iff_left List.nil_prefix]
    exact eq_comm

lemma mem_of_neighbours (h : [x, y] <:+: as) : x ∈ as ∧ y ∈ as :=
  ⟨h.subset List.mem_cons_self, h.subset (List.mem_cons_of_mem x List.mem_cons_self)⟩

/-- The pointers of a chain lead from each node to its neighbour. -/
lemma Linked.next_iff (h : Linked next p as) (hnodup : as.Nodup) (hx : x ∈ as) :
    next x = some (some y) ↔ [x, y] <:+: as := by
  induction as generalizing p with
  | nil => exact absurd hx List.not_mem_nil
  | cons a as ih =>
    obtain ⟨-, p', hnext, hrest⟩ := h
    obtain ⟨hfresh, hnodup⟩ := List.nodup_cons.mp hnodup
    rw [neighbours_cons]
    by_cases hxa : x = a
    · subst hxa
      have hnot : ¬[x, y] <:+: as := fun hpair => hfresh (mem_of_neighbours hpair).1
      rw [hnext, Option.some_inj, linked_head hrest, or_iff_left hnot, and_iff_right rfl]
    · rw [ih hrest hnodup (List.mem_of_ne_of_mem hxa hx), or_iff_right (fun hboth => hxa hboth.1)]

/-- So do the pointers back, but for the one of the first node. -/
lemma Backward.prev_iff (h : Backward prev r as) (hnodup : as.Nodup) (hy : y ∈ as) :
    prev y = some (some x) ↔ [x, y] <:+: as ∨ (r = some x ∧ as.head? = some y) := by
  induction as generalizing r with
  | nil => exact absurd hy List.not_mem_nil
  | cons a as ih =>
    obtain ⟨hprev, hrest⟩ := h
    obtain ⟨hfresh, hnodup⟩ := List.nodup_cons.mp hnodup
    rw [neighbours_cons, List.head?_cons, Option.some_inj]
    by_cases hya : y = a
    · subst hya
      have hfront : ¬(x = y ∧ as.head? = some y) := fun hboth => hfresh (List.mem_of_head? hboth.2)
      have hpair : ¬[x, y] <:+: as := fun hpair => hfresh (mem_of_neighbours hpair).2
      rw [hprev, Option.some_inj, or_iff_right (not_or.mpr ⟨hfront, hpair⟩), and_iff_left rfl]
    · have hnot : ¬(r = some x ∧ a = y) := fun hboth => hya hboth.2.symm
      rw [ih hrest hnodup (List.mem_of_ne_of_mem hya hy), or_iff_left hnot, Option.some_inj, or_comm, eq_comm]

/-- A chain with pointers back is linked in both directions exactly if the first one is null. -/
theorem doubly_iff (hlinked : Linked next head as) (hback : Backward prev r as) (hnodup : as.Nodup)
    (htail : tail = as.getLast?) : Doubly next prev head tail ↔ as = [] ∨ r = none := by
  constructor
  · intro h
    cases as with
    | nil => exact Or.inl rfl
    | cons a as => exact Or.inr (Option.some_inj.mp (hback.1.symm.trans (h.head_prev a hlinked.1)))
  · intro hnull
    have hnone : ∀ x y, ¬(r = some x ∧ as.head? = some y) := by
      rintro x y ⟨hr, hhead⟩
      rcases hnull with rfl | rfl
      · cases hhead
      · cases hr
    have hprev : ∀ x y, y ∈ as → (prev y = some (some x) ↔ [x, y] <:+: as) := fun x y hy =>
      (hback.prev_iff hnodup hy).trans (or_iff_left (hnone x y))
    constructor
    · intro a ha
      rw [linked_head hlinked] at ha
      cases as with
      | nil => cases ha
      | cons b as =>
        obtain rfl : b = a := Option.some_inj.mp ha
        obtain rfl : r = none := hnull.resolve_left (List.cons_ne_nil b as)
        exact hback.1
    · intro a ha
      obtain ⟨front, rfl⟩ := List.getLast?_eq_some_iff.mp (htail ▸ ha)
      exact hlinked.next_last
    · intro x y hx hy
      rw [hlinked.visited_iff] at hx hy
      rw [hlinked.next_iff hnodup hx, hprev x y hy]
    · intro x y hy hxy
      rw [hlinked.visited_iff] at hy ⊢
      exact (mem_of_neighbours ((hprev x y hy).mp hxy)).1

end Chain
