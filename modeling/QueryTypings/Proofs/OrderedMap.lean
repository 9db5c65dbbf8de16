/-
  Maps that are gone through in step.

  Two maps are in step if they have the same keys in the same places, and values there that belong
  together (`InStep`).  Then a key leads in both to values that belong together, or in neither to
  anything (`InStep.get?`), and going through the maps comes to the same where values that belong
  together are not told apart (`InStep.any_eq`, `InStep.mapM_eq`).
-/
import QueryTypings.OrderedMap
import Mathlib.Data.List.Forall2

namespace QueryTypings.OrderedMap

variable {α β : Type}

/-- The same keys in the same places, with related values. -/
def InStep (R : α → β → Prop) (m : OrderedMap α) (m' : OrderedMap β) : Prop :=
  List.Forall₂ (fun p q => q.1 = p.1 ∧ R p.2 q.2) m m'

variable {R : α → β → Prop} {m : OrderedMap α} {m' : OrderedMap β}

/-- A key leads to related values, or to none in either map. -/
theorem InStep.get? (h : InStep R m m') (key : String) :
    (OrderedMap.get? key m = none ∧ OrderedMap.get? key m' = none)
      ∨ ∃ a b, OrderedMap.get? key m = some a ∧ OrderedMap.get? key m' = some b ∧ R a b := by
  induction h with
  | nil => exact Or.inl ⟨rfl, rfl⟩
  | @cons p q _ _ hpq _ ih =>
      obtain ⟨k, a⟩ := p
      obtain ⟨k', b⟩ := q
      obtain ⟨hkey, hab⟩ := hpq
      dsimp only at hkey hab
      subst hkey
      by_cases hk : k' = key
      · rw [OrderedMap.get?, OrderedMap.get?, if_pos hk, if_pos hk]
        exact Or.inr ⟨a, b, rfl, rfl, hab⟩
      · rw [OrderedMap.get?, OrderedMap.get?, if_neg hk, if_neg hk]
        exact ih

theorem InStep.any_eq (h : InStep R m m') {f : α → Bool} {f' : β → Bool}
    (hf : ∀ a b, R a b → f a = f' b) : (m.any fun p => f p.2) = m'.any fun p => f' p.2 := by
  induction h with
  | nil => rfl
  | cons hpq _ ih => rw [List.any_cons, List.any_cons, hf _ _ hpq.2, ih]

theorem InStep.mapM_eq {ε γ : Type} (h : InStep R m m') {f : String × α → Except ε γ}
    {f' : String × β → Except ε γ} (hf : ∀ key a b, R a b → f (key, a) = f' (key, b)) :
    m.mapM f = m'.mapM f' := by
  induction h with
  | nil => rfl
  | @cons p q _ _ hpq _ ih =>
      obtain ⟨k, a⟩ := p
      obtain ⟨k', b⟩ := q
      obtain ⟨hkey, hab⟩ := hpq
      dsimp only at hkey hab
      subst hkey
      rw [List.mapM_cons, List.mapM_cons, hf k' a b hab, ih]

end QueryTypings.OrderedMap
