import Mathlib.Data.List.Induction

/-!
# Plain decimal numerals

`Decimal.parse` reads the numerals that a printer of natural numbers writes:
digits only, and no leading zero.  It accepts a text exactly when printing the
result gives the text back, so equal numbers have equal numerals.
-/

namespace Decimal

/-- The number a plain numeral denotes. -/
def parse (text : List Char) : Option Nat :=
  if text ≠ [] ∧ text.all Char.isDigit = true ∧
      (text.head? = some '0' → text.length = 1) then
    some (Nat.ofDigitChars 10 text 0)
  else
    none

/-! ## Single digits -/

theorem digitChar_of_isDigit {digit : Char} (isDigit : digit.isDigit = true) :
    ∃ value < 10, digit = Nat.digitChar value := by
  have bounds : 48 ≤ digit.toNat ∧ digit.toNat ≤ 57 := by
    simp only [Char.isDigit, Bool.and_eq_true, decide_eq_true_eq] at isDigit
    exact isDigit
  refine ⟨digit.toNat - 48, by omega, ?_⟩
  have values : ∀ code, 48 ≤ code → code ≤ 57 →
      Char.ofNat code = Nat.digitChar (code - 48) := by
    intro code lower upper
    have cases : code = 48 ∨ code = 49 ∨ code = 50 ∨ code = 51 ∨
        code = 52 ∨ code = 53 ∨ code = 54 ∨ code = 55 ∨ code = 56 ∨
        code = 57 := by
      omega
    rcases cases with rfl | rfl | rfl | rfl | rfl | rfl | rfl | rfl | rfl |
      rfl <;> rfl
  calc
    digit = Char.ofNat digit.toNat := (Char.ofNat_toNat digit).symm
    _ = Nat.digitChar (digit.toNat - 48) :=
      values digit.toNat bounds.1 bounds.2

private theorem head?_append_of_ne_nil {front back : List Char}
    (nonempty : front ≠ []) : (front ++ back).head? = front.head? := by
  cases front with
  | nil => exact absurd rfl nonempty
  | cons head tail => rfl

theorem head_toDigits {value : Nat} (positive : 0 < value) :
    (Nat.toDigits 10 value).head? ≠ some '0' := by
  induction value using Nat.strongRecOn with
  | _ value ih =>
      by_cases small : value < 10
      · rw [Nat.toDigits_of_lt_base small]
        simp only [List.head?_cons, ne_eq, Option.some.injEq,
          Nat.digitChar_eq_zero]
        omega
      · have quotientHead :=
          ih (value / 10) (by omega) (by omega)
        rw [Nat.toDigits_of_base_le (by omega) (by omega)]
        rw [head?_append_of_ne_nil Nat.toDigits_ne_nil]
        exact quotientHead

/-! ## Printing and reading -/

theorem parse_toDigits (value : Nat) :
    parse (Nat.toDigits 10 value) = some value := by
  have plain : Nat.toDigits 10 value ≠ [] ∧
      (Nat.toDigits 10 value).all Char.isDigit = true ∧
      ((Nat.toDigits 10 value).head? = some '0' →
        (Nat.toDigits 10 value).length = 1) := by
    refine ⟨Nat.toDigits_ne_nil, ?_, ?_⟩
    · rw [List.all_eq_true]
      intro digit member
      exact Nat.isDigit_of_mem_toDigits (by omega) (by omega) member
    · intro leadingZero
      rcases Nat.eq_zero_or_pos value with rfl | positive
      · rfl
      · exact absurd leadingZero (head_toDigits positive)
  rw [parse, if_pos plain, Nat.ofDigitChars_ten_toDigits]

theorem toDigits_injective {left right : Nat}
    (same : Nat.toDigits 10 left = Nat.toDigits 10 right) : left = right := by
  have parsed := congrArg parse same
  rw [parse_toDigits, parse_toDigits] at parsed
  exact Option.some.inj parsed

theorem toDigits_ofDigitChars {text : List Char} (nonempty : text ≠ [])
    (digits : ∀ digit ∈ text, digit.isDigit = true)
    (noLeadingZero : text.head? = some '0' → text.length = 1) :
    Nat.toDigits 10 (Nat.ofDigitChars 10 text 0) = text := by
  induction text using List.reverseRecOn with
  | nil => exact absurd rfl nonempty
  | append_singleton front last ih =>
      obtain ⟨value, valueBound, rfl⟩ :=
        digitChar_of_isDigit (digits last (by simp))
      rw [Nat.ofDigitChars_append,
        Nat.ofDigitChars_cons_digitChar_of_lt_ten valueBound,
        Nat.ofDigitChars_nil]
      by_cases frontEmpty : front = []
      · subst frontEmpty
        simpa using Nat.toDigits_of_lt_base valueBound
      · have frontDigits : ∀ digit ∈ front, digit.isDigit = true := by
          intro digit member
          exact digits digit (List.mem_append_left _ member)
        have frontHead : front.head? ≠ some '0' := by
          intro leadingZero
          have single := noLeadingZero <| by
            rw [head?_append_of_ne_nil frontEmpty]
            exact leadingZero
          have frontLength := List.length_pos_iff.mpr frontEmpty
          rw [List.length_append, List.length_singleton] at single
          omega
        have frontPrinted := ih frontEmpty frontDigits
          fun leadingZero => absurd leadingZero frontHead
        have frontPositive : 0 < Nat.ofDigitChars 10 front 0 := by
          rcases Nat.eq_zero_or_pos (Nat.ofDigitChars 10 front 0) with
            isZero | positive
          · rw [isZero, Nat.toDigits_zero] at frontPrinted
            rw [← frontPrinted] at frontHead
            exact absurd rfl frontHead
          · exact positive
        rw [← Nat.toDigits_append_toDigits (by omega) frontPositive valueBound,
          frontPrinted, Nat.toDigits_of_lt_base valueBound]

theorem parse_eq_some_iff {text : List Char} {value : Nat} :
    parse text = some value ↔ text = Nat.toDigits 10 value := by
  constructor
  · intro accepted
    unfold parse at accepted
    split at accepted
    · rename_i plain
      obtain ⟨nonempty, digits, noLeadingZero⟩ := plain
      rw [List.all_eq_true] at digits
      rw [← Option.some.inj accepted]
      exact (toDigits_ofDigitChars nonempty digits noLeadingZero).symm
    · cases accepted
  · rintro rfl
    exact parse_toDigits value

end Decimal
