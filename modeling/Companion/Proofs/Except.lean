import Mathlib.Tactic.Common

namespace Companion

theorem bind_ok_iff {ε α β : Type} {x : Except ε α} {g : α → Except ε β} {b : β} :
    (x >>= g) = .ok b ↔ ∃ a, x = .ok a ∧ g a = .ok b := by
  cases x <;> simp [bind, Except.bind]

theorem mapError_ok_iff {ε ε' α : Type} {x : Except ε α} {g : ε → ε'} {a : α} :
    x.mapError g = .ok a ↔ x = .ok a := by
  cases x <;> simp [Except.mapError]

theorem mapError_error_iff {ε ε' α : Type} {x : Except ε α} {g : ε → ε'} {e' : ε'} :
    x.mapError g = .error e' ↔ ∃ e, x = .error e ∧ g e = e' := by
  cases x <;> simp [Except.mapError]

theorem map_ok_iff {ε α β : Type} {x : Except ε α} {g : α → β} {b : β} :
    x.map g = .ok b ↔ ∃ a, x = .ok a ∧ g a = b := by
  cases x <;> simp [Except.map]

theorem refuse_ok_iff {ε α : Type} {p : Prop} [Decidable p] {e : ε} {x : Except ε α} {a : α} :
    (if p then .error e else x) = .ok a ↔ ¬p ∧ x = .ok a := by
  by_cases hp : p
  · rw [if_pos hp]
    exact iff_of_false nofun fun h => h.1 hp
  · rw [if_neg hp]
    exact (and_iff_right hp).symm

theorem guard_ok_iff {ε α : Type} {p : Prop} [Decidable p] {e : ε} {g : PUnit → Except ε α}
    {x : Except ε α} {a : α} :
    (if p then throw e >>= g else x) = .ok a ↔ ¬p ∧ x = .ok a := refuse_ok_iff

theorem bind_congr_of_ok {ε α β : Type} {x : Except ε α} {g g' : α → Except ε β}
    (hg : ∀ a, x = .ok a → g a = g' a) : x >>= g = x >>= g' := by
  cases x with
  | ok a => exact hg a rfl
  | error e => rfl

/-- Two computations that fail alike or succeed with related results. -/
inductive Alike {ε α β : Type} (R : α → β → Prop) : Except ε α → Except ε β → Prop
  | ok {a : α} {b : β} (h : R a b) : Alike R (.ok a) (.ok b)
  | error (e : ε) : Alike R (.error e) (.error e)

namespace Alike

variable {ε α β α' β' : Type} {R : α → β → Prop} {S : α' → β' → Prop}

theorem bind {x : Except ε α} {y : Except ε β} {g : α → Except ε α'} {g' : β → Except ε β'}
    (hx : Alike R x y) (hg : ∀ a b, R a b → Alike S (g a) (g' b)) :
    Alike S (x >>= g) (y >>= g') := by
  cases hx with
  | ok h => exact hg _ _ h
  | error e => exact .error e

theorem after (x : Except ε α) {g : α → Except ε α'} {g' : α → Except ε β'}
    (hg : ∀ a, Alike S (g a) (g' a)) : Alike S (x >>= g) (x >>= g') := by
  cases x with
  | ok a => exact hg a
  | error e => exact .error e

theorem bind_eq {γ : Type} {x : Except ε α} {y : Except ε β} {g : α → Except ε γ}
    {g' : β → Except ε γ} (hx : Alike R x y) (hg : ∀ a b, R a b → g a = g' b) :
    x >>= g = y >>= g' := by
  cases hx with
  | ok h => exact hg _ _ h
  | error e => rfl

end Alike

end Companion
