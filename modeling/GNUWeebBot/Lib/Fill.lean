import Mathlib.Data.Int.Order.Basic
import Mathlib.Tactic.Common

/-!
# Functions that fill a struct

A C function that stores into a struct through a pointer and returns an error code is a
`Fill`: it goes on with a value, or it returns early and leaves the struct partly filled,
or it breaks a precondition of a function it calls, and what was stored until then is kept. `wp` is the weakest precondition; since
a `Fill` is deterministic, its rules are equivalences.
-/

inductive Outcome (ε σ α : Type)
  | fault (e : ε) (s : σ)
  | ret (code : ℤ) (s : σ)
  | next (a : α) (s : σ)

def Fill (ε σ α : Type) : Type := σ → Outcome ε σ α

namespace Fill

variable {ε σ τ α β : Type}

def bind (m : Fill ε σ α) (f : α → Fill ε σ β) : Fill ε σ β := fun s =>
  match m s with
  | .fault e s => .fault e s
  | .ret code s => .ret code s
  | .next a s => f a s

instance : Monad (Fill ε σ) where
  pure a s := .next a s
  bind := bind

def modify (f : σ → σ) : Fill ε σ Unit := fun s => .next () (f s)

/-- A value read from the struct. -/
def read (f : σ → α) : Fill ε σ α := fun s => .next (f s) s

/-- `return code;` -/
def exit (code : ℤ) : Fill ε σ α := fun s => .ret code s

def crash (e : ε) : Fill ε σ α := fun s => .fault e s

/-- The value, or an early return where there is none. -/
def need (o : Option α) (code : ℤ) : Fill ε σ α :=
  match o with
  | some a => pure a
  | none => exit code

/-- A call that fills a part of the struct. -/
def part (view : σ → τ) (put : τ → σ → σ) (m : Fill ε τ α) : Fill ε σ α := fun s =>
  match m (view s) with
  | .fault e t => .fault e (put t s)
  | .ret code t => .ret code (put t s)
  | .next a t => .next a (put t s)

/-- A call whose return code is dropped. -/
def ignore (m : Fill ε σ Unit) : Fill ε σ Unit := fun s =>
  match m s with
  | .fault e s => .fault e s
  | .ret _ s => .next () s
  | .next _ s => .next () s

/-- The call as its caller sees it: the code and the struct. -/
def call (m : Fill ε σ Unit) (s : σ) : Except ε (ℤ × σ) :=
  match m s with
  | .fault e _ => .error e
  | .ret code s => .ok (code, s)
  | .next _ s => .ok (0, s)

/-- A call with its return code, after which the caller goes on. -/
def code (m : Fill ε σ Unit) : Fill ε σ ℤ := fun s =>
  match m s with
  | .fault e s => .fault e s
  | .ret code s => .next code s
  | .next _ s => .next 0 s

/-- A call on a struct of its own, which the caller then has with the return code. -/
def fresh (m : Fill ε τ Unit) (t : τ) : Fill ε σ (ℤ × τ) := fun s =>
  match call m t with
  | .error e => .fault e s
  | .ok r => .next r s

def lift (r : Except ε α) : Fill ε σ α :=
  match r with
  | .error e => crash e
  | .ok a => pure a

/-- `ret = m; if (ret != code) return ret;` -/
def returnUnless (code : ℤ) (m : Fill ε σ Unit) : Fill ε σ Unit := fun s =>
  match m s with
  | .fault e s => .fault e s
  | .ret ret s => if ret = code then .next () s else .ret ret s
  | .next _ s => if 0 = code then .next () s else .ret 0 s

/-- A loop that stores one value for each index. -/
def each {ι : Type} (f : ι → Fill ε σ α) : List ι → Fill ε σ (List α)
  | [] => pure []
  | i :: is => do
    let a ← f i
    let as ← each f is
    pure (a :: as)

/-! ### Weakest preconditions -/

/-- No fault, and `Q` if the function goes on, `R` if it returns early. -/
def wp (m : Fill ε σ α) (Q : α → σ → Prop) (R : ℤ → σ → Prop) (s : σ) : Prop :=
  match m s with
  | .fault _ _ => False
  | .ret code s => R code s
  | .next a s => Q a s

variable {m : Fill ε σ α} {Q : α → σ → Prop} {R : ℤ → σ → Prop} {s : σ}

lemma wp_mono {Q' : α → σ → Prop} {R' : ℤ → σ → Prop} (h : wp m Q R s) (hQ : ∀ a s', Q a s' → Q' a s')
    (hR : ∀ code s', R code s' → R' code s') : wp m Q' R' s := by
  unfold wp at *
  cases hm : m s with
  | fault e s' =>
    rw [hm] at h
    exact h
  | ret code s' =>
    rw [hm] at h
    exact hR code s' h
  | next a s' =>
    rw [hm] at h
    exact hQ a s' h

/-- A function that never goes on. -/
lemma exists_ret_of_wp (h : wp m (fun _ _ => False) R s) : ∃ code s', m s = .ret code s' ∧ R code s' := by
  unfold wp at h
  cases hm : m s with
  | fault e s' => simp [hm] at h
  | ret code s' =>
    rw [hm] at h
    exact ⟨code, s', rfl, h⟩
  | next a s' => simp [hm] at h

@[simp] lemma wp_pure (a : α) : wp (pure a : Fill ε σ α) Q R s ↔ Q a s := Iff.rfl

@[simp] lemma wp_modify (f : σ → σ) {Q : Unit → σ → Prop} : wp (modify f : Fill ε σ Unit) Q R s ↔ Q () (f s) :=
  Iff.rfl

@[simp] lemma wp_read (f : σ → α) : wp (read f : Fill ε σ α) Q R s ↔ Q (f s) s := Iff.rfl

@[simp] lemma wp_exit (code : ℤ) : wp (exit code : Fill ε σ α) Q R s ↔ R code s := Iff.rfl

@[simp] lemma wp_crash (e : ε) : wp (crash e : Fill ε σ α) Q R s ↔ False := Iff.rfl

@[simp] lemma wp_bind (m : Fill ε σ β) (f : β → Fill ε σ α) :
    wp (m >>= f) Q R s ↔ wp m (fun b s' => wp (f b) Q R s') R s := by
  change wp (bind m f) Q R s ↔ _
  unfold wp bind
  cases m s <;> exact Iff.rfl

/-- The second call starts where the first one went on. -/
lemma wp_then {m : Fill ε σ β} {f : β → Fill ε σ α} {Q' : β → σ → Prop} {R' : ℤ → σ → Prop} (hm : wp m Q' R' s)
    (hf : ∀ b s', Q' b s' → wp (f b) Q R s') (hR : ∀ code s', R' code s' → R code s') : wp (m >>= f) Q R s :=
  (wp_bind m f).mpr (wp_mono hm hf hR)

@[simp] lemma wp_need_some (a : α) (code : ℤ) : wp (need (some a) code : Fill ε σ α) Q R s ↔ Q a s := Iff.rfl

@[simp] lemma wp_need_none (code : ℤ) : wp (need (none : Option α) code : Fill ε σ α) Q R s ↔ R code s := Iff.rfl

@[simp] lemma wp_part (view : σ → τ) (put : τ → σ → σ) (m : Fill ε τ α) :
    wp (part view put m) Q R s ↔
      wp m (fun a t => Q a (put t s)) (fun code t => R code (put t s)) (view s) := by
  unfold wp part
  cases m (view s) <;> exact Iff.rfl

@[simp] lemma wp_ignore (m : Fill ε σ Unit) {Q : Unit → σ → Prop} :
    wp (ignore m) Q R s ↔ wp m Q (fun _ => Q ()) s := by
  unfold wp ignore
  cases m s <;> exact Iff.rfl

@[simp] lemma wp_code (m : Fill ε σ Unit) {Q : ℤ → σ → Prop} : wp (code m) Q R s ↔ wp m (fun _ => Q 0) Q s := by
  unfold wp code
  cases m s <;> exact Iff.rfl

@[simp] lemma wp_fresh (m : Fill ε τ Unit) (t : τ) {Q : ℤ × τ → σ → Prop} :
    wp (fresh m t) Q R s ↔ wp m (fun _ t' => Q (0, t') s) (fun code t' => Q (code, t') s) t := by
  unfold wp fresh call
  cases m t <;> exact Iff.rfl

@[simp] lemma wp_lift (r : Except ε α) : wp (lift r : Fill ε σ α) Q R s ↔ ∃ a, r = .ok a ∧ Q a s := by
  cases r with
  | error e => simp [lift]
  | ok a => simp [lift]

lemma wp_returnUnless (code : ℤ) (m : Fill ε σ Unit) {Q : Unit → σ → Prop} :
    wp (returnUnless code m) Q R s ↔
      wp m (fun _ s' => if 0 = code then Q () s' else R 0 s')
        (fun ret s' => if ret = code then Q () s' else R ret s') s := by
  unfold wp returnUnless
  cases m s with
  | fault e s' => exact Iff.rfl
  | ret ret s' =>
    by_cases hret : ret = code
    · simp only [if_pos hret]
    · simp only [if_neg hret]
  | next a s' =>
    by_cases hret : 0 = code
    · simp only [if_pos hret]
    · simp only [if_neg hret]

/-- A function that cancels itself. -/
lemma returnUnless_need_none {o : Option β} (ho : o = none) (code : ℤ) (f : β → Fill ε σ Unit) :
    returnUnless code (need o code >>= f) s = .next () s := by
  subst ho
  exact if_pos rfl

/-- A loop whose body always stores a value and leaves the struct alone. -/
lemma wp_each {ι : Type} {f : ι → Fill ε σ α} {g : ι → α} (is : List ι) {Q : List α → σ → Prop}
    (hf : ∀ i ∈ is, f i s = .next (g i) s) : wp (each f is) Q R s ↔ Q (is.map g) s := by
  induction is generalizing Q with
  | nil => exact Iff.rfl
  | cons i is ih =>
    have hi : ∀ P : α → σ → Prop, wp (f i) P R s ↔ P (g i) s := by
      intro P
      simp only [wp, hf i List.mem_cons_self]
    have his := fun P => ih (Q := P) (fun j hj => hf j (List.mem_cons_of_mem i hj))
    simp only [each, wp_bind, hi, his, wp_pure, List.map_cons]

/-- A loop with an invariant, whose body stores a known value and shows something about its index. -/
lemma wp_each_of {ι : Type} {f : ι → Fill ε σ α} {I : σ → Prop} {g : ι → α} {P : ι → Prop} {Q : List α → σ → Prop}
    (is : List ι) (hf : ∀ i ∈ is, ∀ s, I s → wp (f i) (fun a s' => a = g i ∧ P i ∧ I s') R s) (hs : I s)
    (hQ : ∀ s', (∀ i ∈ is, P i) → I s' → Q (is.map g) s') : wp (each f is) Q R s := by
  induction is generalizing s Q with
  | nil => exact hQ s (fun i hi => absurd hi List.not_mem_nil) hs
  | cons i is ih =>
    simp only [each, wp_bind]
    apply wp_mono (hf i List.mem_cons_self s hs) ?_ fun _ _ h => h
    rintro a s' ⟨rfl, hi, hs'⟩
    apply ih (fun j hj => hf j (List.mem_cons_of_mem i hj)) hs'
    intro s'' his hs''
    exact hQ s'' (List.forall_mem_cons.mpr ⟨hi, his⟩) hs''

lemma wp_of_next {a : α} {s' : σ} (h : m s = .next a s') : wp m Q R s ↔ Q a s' := by
  simp only [wp, h]

lemma wp_of_ret {code : ℤ} {s' : σ} (h : m s = .ret code s') : wp m Q R s ↔ R code s' := by
  simp only [wp, h]

/-- The struct after a call, however it ends. -/
def final (m : Fill ε σ α) (s : σ) : σ :=
  match m s with
  | .fault _ s => s
  | .ret _ s => s
  | .next _ s => s

lemma final_of_wp {P : σ → Prop} (h : wp m (fun _ => P) (fun _ => P) s) : P (final m s) := by
  unfold wp at h
  unfold final
  cases hm : m s <;> simp_all

lemma final_of_next {a : α} {s' : σ} (h : m s = .next a s') : final m s = s' := by
  simp only [final, h]

/-! ### Faults -/

def Faults (m : Fill ε σ α) (s : σ) : Prop := ∃ e s', m s = .fault e s'

lemma faults_crash (e : ε) : Faults (crash e : Fill ε σ α) s := ⟨e, s, rfl⟩

lemma Faults.bind_left {f : α → Fill ε σ β} (h : Faults m s) : Faults (m >>= f) s := by
  obtain ⟨e, s', he⟩ := h
  refine ⟨e, s', ?_⟩
  change bind m f s = _
  simp only [bind, he]

/-- The first call goes on, and the second one faults. -/
lemma Faults.bind {f : α → Fill ε σ β} (h : wp m (fun a => Faults (f a)) (fun _ _ => False) s) : Faults (m >>= f) s := by
  unfold wp at h
  cases hm : m s with
  | fault e s' => exact ⟨e, s', by change Fill.bind m f s = _; simp only [Fill.bind, hm]⟩
  | ret code s' =>
    rw [hm] at h
    exact h.elim
  | next a s' =>
    rw [hm] at h
    obtain ⟨e, s'', he⟩ := h
    refine ⟨e, s'', ?_⟩
    change Fill.bind m f s = _
    simp only [Fill.bind, hm, he]

/-! ### Invariants

What holds of the struct after a call however it ends, also with a fault. -/

structure Keeps (I : σ → Prop) (m : Fill ε σ α) : Prop where
  final : ∀ s, I s → I (final m s)

variable {I : σ → Prop}

lemma keeps_pure (a : α) : Keeps I (pure a : Fill ε σ α) := ⟨fun _ hs => hs⟩

lemma keeps_crash (e : ε) : Keeps I (crash e : Fill ε σ α) := ⟨fun _ hs => hs⟩

lemma keeps_read (f : σ → α) : Keeps I (read f : Fill ε σ α) := ⟨fun _ hs => hs⟩

lemma keeps_fresh (m : Fill ε τ Unit) (t : τ) : Keeps I (fresh m t : Fill ε σ (ℤ × τ)) := by
  constructor
  intro s hs
  unfold final fresh
  cases call m t <;> exact hs

lemma final_bind_of_next {f : α → Fill ε σ β} {a : α} {s' : σ} (h : m s = .next a s') :
    final (m >>= f) s = final (f a) s' := by
  change final (bind m f) s = _
  simp only [final, bind, h]

lemma final_bind_of_not_next {f : α → Fill ε σ β} (h : ∀ a s', m s ≠ .next a s') :
    final (m >>= f) s = final m s := by
  change final (bind m f) s = _
  unfold final bind
  cases hm : m s with
  | fault e s' => rfl
  | ret code s' => rfl
  | next a s' => exact absurd hm (h a s')

/-- The second call starts where the first one ended. -/
lemma keeps_bind_of {J : α → σ → Prop} {f : α → Fill ε σ β} (hm : Keeps I m)
    (hnext : ∀ s a s', I s → m s = .next a s' → J a s') (hf : ∀ a s', J a s' → I (final (f a) s')) :
    Keeps I (m >>= f) := by
  constructor
  intro s hs
  by_cases hnot : ∀ a s', m s ≠ .next a s'
  · rw [final_bind_of_not_next hnot]
    exact hm.final s hs
  · simp only [not_forall, not_not] at hnot
    obtain ⟨a, s', ha⟩ := hnot
    rw [final_bind_of_next ha]
    exact hf a s' (hnext s a s' hs ha)

lemma keeps_bind {f : α → Fill ε σ β} (hm : Keeps I m) (hf : ∀ a, Keeps I (f a)) : Keeps I (m >>= f) := by
  apply keeps_bind_of hm (J := fun _ => I)
  · intro s a s' hs ha
    rw [← final_of_next ha]
    exact hm.final s hs
  · exact fun a => (hf a).final

/-! ### Calls that go on -/

lemma bind_of_next {f : α → Fill ε σ β} {a : α} {s' : σ} (h : m s = .next a s') : (m >>= f) s = f a s' := by
  change bind m f s = _
  simp only [bind, h]

lemma bind_read (f : σ → α) (g : α → Fill ε σ β) : (read f >>= g) s = g (f s) s := rfl

lemma bind_of_ret {f : α → Fill ε σ β} {code : ℤ} {s' : σ} (h : m s = .ret code s') : (m >>= f) s = .ret code s' := by
  change bind m f s = _
  simp only [bind, h]

lemma bind_eq_next {f : α → Fill ε σ β} {b : β} {s'' : σ} :
    (m >>= f) s = .next b s'' ↔ ∃ a s', m s = .next a s' ∧ f a s' = .next b s'' := by
  change bind m f s = _ ↔ _
  unfold bind
  cases m s <;> simp

@[simp] lemma pure_eq_next {a b : α} {s' : σ} : (pure a : Fill ε σ α) s = .next b s' ↔ a = b ∧ s = s' :=
  Outcome.next.injEq _ _ _ _ ▸ Iff.rfl

@[simp] lemma read_eq_next {f : σ → α} {b : α} {s' : σ} :
    (read f : Fill ε σ α) s = .next b s' ↔ f s = b ∧ s = s' :=
  Outcome.next.injEq _ _ _ _ ▸ Iff.rfl

@[simp] lemma fresh_eq_next {m : Fill ε τ Unit} {t : τ} {r : ℤ × τ} {s' : σ} :
    (fresh m t : Fill ε σ (ℤ × τ)) s = .next r s' ↔ call m t = .ok r ∧ s = s' := by
  unfold fresh
  cases call m t <;> simp

/-! ### Functions that check -/

/-- A function without faults that goes on where `C` holds and returns `code` elsewhere. -/
structure Checks (m : Fill ε σ Unit) (C : Prop) (code : ℤ) : Prop where
  next : ∀ s, C → m s = .next () (final m s)
  ret : ∀ s, ¬C → m s = .ret code (final m s)

lemma Checks.of_wp {m : Fill ε σ Unit} {C : Prop} {code : ℤ}
    (h : ∀ s, wp m (fun _ _ => C) (fun ret _ => ¬C ∧ ret = code) s) : Checks m C code := by
  constructor
  · intro s hC
    have hs := h s
    unfold wp at hs
    unfold final
    cases hm : m s <;> simp_all
  · intro s hC
    have hs := h s
    unfold wp at hs
    unfold final
    cases hm : m s <;> simp_all

lemma Checks.wp_iff {m : Fill ε σ Unit} {C : Prop} {code : ℤ} (h : Checks m C code) {Q : Unit → σ → Prop} :
    wp m Q R s ↔ (C → Q () (final m s)) ∧ (¬C → R code (final m s)) := by
  by_cases hC : C
  · simp [wp_of_next (h.next s hC), hC]
  · simp [wp_of_ret (h.ret s hC), hC]

lemma Checks.exists_fresh {m : Fill ε τ Unit} {C : Prop} {code : ℤ} (h : Checks m C code) (t : τ) (s : σ) :
    ∃ ret, (fresh m t : Fill ε σ (ℤ × τ)) s = .next (ret, final m t) s := by
  unfold fresh call
  by_cases hC : C
  · rw [h.next t hC]
    exact ⟨0, rfl⟩
  · rw [h.ret t hC]
    exact ⟨code, rfl⟩

/-- What a caller can say about a call. -/
lemma call_iff_wp (m : Fill ε σ Unit) (P : ℤ → σ → Prop) :
    (∃ code s', call m s = .ok (code, s') ∧ P code s') ↔ wp m (fun _ => P 0) P s := by
  unfold call wp
  cases hm : m s with
  | fault e s' => simp
  | ret code s' => simp
  | next a s' => simp

lemma call_eq_ok_iff (m : Fill ε σ Unit) {code : ℤ} {s' : σ} :
    call m s = .ok (code, s') ↔ wp m (fun _ t => 0 = code ∧ t = s') (fun ret t => ret = code ∧ t = s') s := by
  rw [← call_iff_wp m (fun ret t => ret = code ∧ t = s')]
  constructor
  · exact fun h => ⟨code, s', h, rfl, rfl⟩
  · rintro ⟨ret, t, h, rfl, rfl⟩
    exact h

end Fill
