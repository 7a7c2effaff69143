import GNUWeebBot.Lib.Fill

/-!
# Two runs side by side

Two runs are alike if they end in the same way, with related results and related structs. Runs of two
functions are compared step by step, as long as both take the same steps.
-/

/-- Both runs fault, return early with the same code, or go on. -/
inductive Outcome.Alike {ε σ α : Type} (S : σ → σ → Prop) (V : α → α → Prop) :
    Outcome ε σ α → Outcome ε σ α → Prop
  | fault {e : ε} {s s' : σ} : S s s' → Alike S V (.fault e s) (.fault e s')
  | ret {code : ℤ} {s s' : σ} : S s s' → Alike S V (.ret code s) (.ret code s')
  | next {a a' : α} {s s' : σ} : V a a' → S s s' → Alike S V (.next a s) (.next a' s')

namespace Fill

open Outcome

variable {ε σ α β : Type} {S T : σ → σ → Prop} {V : α → α → Prop} {W : β → β → Prop}

lemma alike_refl (hS : ∀ s, S s s) (hV : ∀ a, V a a) (o : Outcome ε σ α) : Alike S V o o := by
  cases o with
  | fault e s => exact .fault (hS s)
  | ret code s => exact .ret (hS s)
  | next a s => exact .next (hV a) (hS s)

section Bind

variable {m m' : Fill ε σ α} {f f' : α → Fill ε σ β} {s s' : σ}

lemma alike_bind (hm : Alike S V (m s) (m' s')) (hST : ∀ s s', S s s' → T s s')
    (hf : ∀ a a' t t', V a a' → S t t' → Alike T W (f a t) (f' a' t')) :
    Alike T W ((m >>= f) s) ((m' >>= f') s') := by
  change Alike T W (bind m f s) (bind m' f' s')
  unfold bind
  revert hm
  generalize m s = o
  generalize m' s' = o'
  intro hm
  cases hm with
  | fault hs => exact .fault (hST _ _ hs)
  | ret hs => exact .ret (hST _ _ hs)
  | next ha hs => exact hf _ _ _ _ ha hs

/-- The runs differ only after a call that they have in common. -/
lemma alike_bind_same (hT : ∀ s, T s s) (hf : ∀ a t, Alike T W (f a t) (f' a t)) :
    Alike T W ((m >>= f) s) ((m >>= f') s) := by
  apply alike_bind (alike_refl (S := Eq) (V := Eq) (fun _ => rfl) (fun _ => rfl) (m s))
  · rintro s _ rfl
    exact hT s
  · rintro a _ t _ rfl rfl
    exact hf a t

end Bind

end Fill
