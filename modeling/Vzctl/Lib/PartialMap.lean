import Mathlib.Logic.Function.Basic

/-!
# Partial maps

What is found in a map `κ → Option α` after one of its entries was set.
-/

universe u v

namespace PartialMap

variable {κ : Type u} {α : Type v} [DecidableEq κ] {map : κ → Option α}
  {key other : κ} {value found : α}

theorem of_update_eq_some
    (after : Function.update map key (some value) other = some found) :
    other = key ∧ found = value ∨ other ≠ key ∧ map other = some found := by
  by_cases same : other = key
  · rw [same, Function.update_self] at after
    exact .inl ⟨same, (Option.some.inj after).symm⟩
  · rw [Function.update_of_ne same] at after
    exact .inr ⟨same, after⟩

theorem update_of_absent (absent : map key = none)
    (present : map other = some found) (entry : Option α) :
    Function.update map key entry other = some found := by
  rw [Function.update_of_ne ?_]
  · exact present
  · rintro rfl
    cases absent.symm.trans present

end PartialMap
