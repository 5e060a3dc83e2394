import Mathlib.Algebra.Order.Floor.Ring
import Mathlib.Data.Int.Log
import Mathlib.Data.Rat.Floor
import Mathlib.Tactic.Linarith
import Mathlib.Tactic.NormNum
import Mathlib.Tactic.Positivity

/-!
# Rounding to the nearest number, ties to even

`nearest bits` rounds a rational number to one with that many binary digits.
The exponent has no bounds, so that this is the arithmetic of floating point
for numbers that neither overflow nor become subnormal.
-/

namespace NearestEven

/-! ## Integers -/

def nearestInt (x : ℚ) : ℤ :=
  if x - ⌊x⌋ < 1 / 2 then ⌊x⌋
  else if 1 / 2 < x - ⌊x⌋ then ⌊x⌋ + 1
  else ⌊x⌋ + ⌊x⌋ % 2

section Integers

variable {x y : ℚ} {n : ℤ}

theorem nearestInt_intCast : nearestInt n = n := by
  rw [nearestInt, Int.floor_intCast, sub_self, if_pos (by norm_num)]

theorem floor_le_nearestInt : ⌊x⌋ ≤ nearestInt x := by
  rw [nearestInt]
  split
  · exact le_refl _
  · split <;> omega

theorem nearestInt_le_succ : nearestInt x ≤ ⌊x⌋ + 1 := by
  rw [nearestInt]
  split
  · omega
  · split <;> omega

theorem nearestInt_mono (le : x ≤ y) : nearestInt x ≤ nearestInt y := by
  rcases (Int.floor_mono le).lt_or_eq with less | same
  · have first := @nearestInt_le_succ x
    have second := floor_le_nearestInt (x := y)
    omega
  · rw [nearestInt, nearestInt, same]
    by_cases small : x - ⌊y⌋ < 1 / 2
    · rw [if_pos small]
      split
      · exact le_refl _
      · split <;> omega
    · rw [if_neg small, if_neg (by linarith : ¬ y - ⌊y⌋ < 1 / 2)]
      by_cases large : 1 / 2 < x - ⌊y⌋
      · rw [if_pos large, if_pos (by linarith : 1 / 2 < y - ⌊y⌋)]
      · rw [if_neg large]
        split <;> omega

theorem le_nearestInt (le : (n : ℚ) ≤ x) : n ≤ nearestInt x := by
  have mono := nearestInt_mono le
  rwa [nearestInt_intCast] at mono

theorem nearestInt_le (le : x ≤ n) : nearestInt x ≤ n := by
  have mono := nearestInt_mono le
  rwa [nearestInt_intCast] at mono

theorem nearestInt_le_add_half : (nearestInt x : ℚ) ≤ x + 1 / 2 := by
  have below := Int.floor_le x
  rw [nearestInt]
  split
  · linarith
  · split
    · push_cast
      linarith
    · have small : ⌊x⌋ % 2 ≤ 1 := by omega
      have cast : ((⌊x⌋ % 2 : ℤ) : ℚ) ≤ 1 := by exact_mod_cast small
      push_cast
      linarith

theorem nearestInt_le_iff (even : n % 2 = 0) :
    nearestInt x ≤ n ↔ x ≤ n + 1 / 2 := by
  constructor
  · intro le
    by_contra above
    rw [not_le] at above
    have floor : n ≤ ⌊x⌋ := Int.le_floor.mpr (by linarith)
    have same : ⌊x⌋ = n := le_antisymm (floor_le_nearestInt.trans le) floor
    rw [nearestInt, same, if_neg (by linarith), if_pos (by linarith)] at le
    omega
  · intro le
    have middle : nearestInt (n + 1 / 2 : ℚ) = n := by
      have floor : ⌊(n + 1 / 2 : ℚ)⌋ = n := by
        rw [Int.floor_eq_iff]
        constructor <;> linarith
      rw [nearestInt, floor, even, if_neg (by linarith),
        if_neg (by linarith), add_zero]
    exact (nearestInt_mono le).trans middle.le

end Integers

/-! ## Numbers of a precision -/

/-- The distance of the numbers with that many digits around `x`. -/
def spacing (bits : ℕ) (x : ℚ) : ℚ := 2 ^ (Int.log 2 |x| + 1 - bits)

def nearest (bits : ℕ) (x : ℚ) : ℚ :=
  nearestInt (x / spacing bits x) * spacing bits x

/-- A number that has that many digits and is not negative. -/
def Representable (bits : ℕ) (x : ℚ) : Prop :=
  ∃ (digits : ℕ) (exponent : ℤ), digits < 2 ^ bits ∧
    x = digits * 2 ^ exponent

section Precision

variable {bits : ℕ} {x y : ℚ}

theorem spacing_pos : 0 < spacing bits x := by
  rw [spacing]
  exact zpow_pos two_pos _

theorem spacing_ne_zero : spacing bits x ≠ 0 := spacing_pos.ne'

theorem two_zpow_add (a b : ℤ) : (2 : ℚ) ^ (a + b) = 2 ^ a * 2 ^ b :=
  zpow_add₀ two_ne_zero a b

theorem zpow_log_le (positive : 0 < x) : (2 : ℚ) ^ Int.log 2 x ≤ x :=
  Int.zpow_log_le_self (by norm_num) positive

theorem lt_zpow_log : x < (2 : ℚ) ^ (Int.log 2 x + 1) :=
  Int.lt_zpow_succ_log_self (by norm_num) x

theorem nearest_zero : nearest bits 0 = 0 := by
  have zero : nearestInt 0 = 0 := by
    have same := nearestInt_intCast (n := 0)
    rwa [Int.cast_zero] at same
  rw [nearest, zero_div, zero, Int.cast_zero, zero_mul]

theorem zpow_log_eq (many : 0 < bits) (positive : 0 < x) :
    (2 : ℚ) ^ Int.log 2 x = ((2 ^ (bits - 1) : ℤ) : ℚ) * spacing bits x := by
  have exponents : Int.log 2 x =
      ((bits - 1 : ℕ) : ℤ) + (Int.log 2 x + 1 - bits) := by omega
  conv_lhs => rw [exponents]
  rw [spacing, abs_of_pos positive, two_zpow_add, zpow_natCast]
  push_cast
  rfl

theorem zpow_log_succ_eq (positive : 0 < x) :
    (2 : ℚ) ^ (Int.log 2 x + 1) = ((2 ^ bits : ℤ) : ℚ) * spacing bits x := by
  have exponents : Int.log 2 x + 1 =
      (bits : ℤ) + (Int.log 2 x + 1 - bits) := by omega
  conv_lhs => rw [exponents]
  rw [spacing, abs_of_pos positive, two_zpow_add, zpow_natCast]
  push_cast
  rfl

theorem two_pow_le_div_spacing (many : 0 < bits) (positive : 0 < x) :
    ((2 ^ (bits - 1) : ℤ) : ℚ) ≤ x / spacing bits x := by
  rw [le_div_iff₀ spacing_pos, ← zpow_log_eq many positive]
  exact zpow_log_le positive

theorem div_spacing_le_two_pow (positive : 0 < x) :
    x / spacing bits x ≤ ((2 ^ bits : ℤ) : ℚ) := by
  rw [div_le_iff₀ spacing_pos, ← zpow_log_succ_eq positive]
  exact lt_zpow_log.le

theorem zpow_log_le_nearest (many : 0 < bits) (positive : 0 < x) :
    (2 : ℚ) ^ Int.log 2 x ≤ nearest bits x := by
  have digits := le_nearestInt (two_pow_le_div_spacing many positive)
  rw [zpow_log_eq many positive, nearest]
  exact mul_le_mul_of_nonneg_right (Int.cast_le.mpr digits) spacing_pos.le

theorem nearest_le_zpow_log (positive : 0 < x) :
    nearest bits x ≤ (2 : ℚ) ^ (Int.log 2 x + 1) := by
  have digits := nearestInt_le (@div_spacing_le_two_pow bits x positive)
  rw [zpow_log_succ_eq positive, nearest]
  exact mul_le_mul_of_nonneg_right (Int.cast_le.mpr digits) spacing_pos.le

theorem nearest_pos (many : 0 < bits) (positive : 0 < x) :
    0 < nearest bits x :=
  (zpow_pos two_pos _).trans_le (zpow_log_le_nearest many positive)

theorem nearest_nonneg (many : 0 < bits) (nonneg : 0 ≤ x) :
    0 ≤ nearest bits x := by
  rcases nonneg.lt_or_eq with positive | zero
  · exact (nearest_pos many positive).le
  · rw [← zero, nearest_zero]

theorem nearest_neg (many : 0 < bits) (negative : x < 0) :
    nearest bits x < 0 := by
  have digits := two_pow_le_div_spacing many (neg_pos.mpr negative)
  have sameSpacing : spacing bits (-x) = spacing bits x := by
    rw [spacing, spacing, abs_neg]
  have one : (1 : ℚ) ≤ ((2 ^ (bits - 1) : ℤ) : ℚ) := by
    exact_mod_cast one_le_pow₀ (by norm_num : (1 : ℤ) ≤ 2)
  rw [sameSpacing, neg_div] at digits
  have most : nearestInt (x / spacing bits x) ≤ -1 := by
    apply nearestInt_le
    push_cast
    linarith
  apply mul_neg_of_neg_of_pos _ spacing_pos
  exact Int.cast_lt_zero.mpr (by omega)

theorem nearest_mono (many : 0 < bits) (nonneg : 0 ≤ x) (le : x ≤ y) :
    nearest bits x ≤ nearest bits y := by
  rcases nonneg.lt_or_eq with positive | zero
  · have positiveY := positive.trans_le le
    rcases (Int.log_mono_right (b := 2) positive le).lt_or_eq with less | same
    · calc nearest bits x ≤ 2 ^ (Int.log 2 x + 1) :=
            nearest_le_zpow_log positive
        _ ≤ 2 ^ Int.log 2 y := zpow_le_zpow_right₀ one_le_two less
        _ ≤ nearest bits y := zpow_log_le_nearest many positiveY
    · have sameSpacing : spacing bits x = spacing bits y := by
        rw [spacing, spacing, abs_of_pos positive, abs_of_pos positiveY, same]
      rw [nearest, nearest, sameSpacing]
      apply mul_le_mul_of_nonneg_right _ spacing_pos.le
      exact Int.cast_le.mpr
        (nearestInt_mono (div_le_div_of_nonneg_right le spacing_pos.le))
  · rw [← zero, nearest_zero]
    exact nearest_nonneg many (zero ▸ le)

theorem nearest_le_add_half : nearest bits x ≤ x + spacing bits x / 2 := by
  have digits := mul_le_mul_of_nonneg_right
    (nearestInt_le_add_half (x := x / spacing bits x))
    (@spacing_pos bits x).le
  rw [nearest]
  calc (nearestInt (x / spacing bits x) : ℚ) * spacing bits x
      ≤ (x / spacing bits x + 1 / 2) * spacing bits x := digits
    _ = x + spacing bits x / 2 := by
        rw [add_mul, div_mul_cancel₀ _ spacing_ne_zero]
        ring

end Precision

/-! ## Representable numbers -/

section Representable

variable {bits : ℕ} {x y factor : ℚ}

theorem representable_zpow (many : 0 < bits) (exponent : ℤ) :
    Representable bits (2 ^ exponent) :=
  ⟨1, exponent, Nat.one_lt_two_pow many.ne', by simp⟩

theorem representable_natCast {n : ℕ} (small : n < 2 ^ bits) :
    Representable bits n := ⟨n, 0, small, by simp⟩

theorem Representable.nonneg (held : Representable bits x) : 0 ≤ x := by
  obtain ⟨digits, exponent, _, same⟩ := held
  rw [same]
  exact mul_nonneg (Nat.cast_nonneg _) (zpow_nonneg zero_le_two _)

theorem Representable.multiple (held : Representable bits x)
    (positive : 0 < x) : ∃ n : ℕ, x = n * spacing bits x := by
  obtain ⟨digits, exponent, small, same⟩ := held
  have below : x < 2 ^ ((bits : ℤ) + exponent) := by
    rw [same, two_zpow_add, zpow_natCast]
    apply mul_lt_mul_of_pos_right _ (zpow_pos two_pos _)
    exact_mod_cast small
  have log := (Int.lt_zpow_iff_log_lt (b := 2) (by norm_num) positive).mp
    (by exact_mod_cast below)
  obtain ⟨shift, shifted⟩ :=
    Int.eq_ofNat_of_zero_le (a := exponent - (Int.log 2 x + 1 - bits))
      (by omega)
  refine ⟨digits * 2 ^ shift, ?_⟩
  have parts : exponent = shift + (Int.log 2 x + 1 - bits) := by omega
  conv_lhs => rw [same, parts]
  rw [spacing, abs_of_pos positive, two_zpow_add, zpow_natCast]
  push_cast
  ring

theorem nearest_of_representable (held : Representable bits x) :
    nearest bits x = x := by
  rcases held.nonneg.lt_or_eq with positive | zero
  · obtain ⟨n, same⟩ := held.multiple positive
    have quotient : x / spacing bits x = ((n : ℤ) : ℚ) := by
      rw [div_eq_iff spacing_ne_zero]
      exact_mod_cast same
    rw [nearest, quotient, nearestInt_intCast]
    exact_mod_cast same.symm
  · rw [← zero, nearest_zero]

theorem representable_nearest (many : 0 < bits) (nonneg : 0 ≤ x) :
    Representable bits (nearest bits x) := by
  rcases nonneg.lt_or_eq with positive | zero
  · have least := le_nearestInt (two_pow_le_div_spacing many positive)
    have most := nearestInt_le (@div_spacing_le_two_pow bits x positive)
    obtain ⟨digits, same⟩ := Int.eq_ofNat_of_zero_le
      ((by positivity : (0 : ℤ) ≤ 2 ^ (bits - 1)).trans least)
    rw [nearest, same]
    rw [same] at most
    rcases most.lt_or_eq with less | full
    · exact ⟨digits, Int.log 2 |x| + 1 - bits, by exact_mod_cast less, rfl⟩
    · rw [full, spacing]
      have power := representable_zpow many
        ((bits : ℤ) + (Int.log 2 |x| + 1 - bits))
      rw [two_zpow_add, zpow_natCast] at power
      exact_mod_cast power
  · rw [← zero, nearest_zero]
    exact ⟨0, 0, by positivity, by simp⟩

theorem add_spacing_le (heldX : Representable bits x)
    (heldY : Representable bits y) (positive : 0 < x) (less : x < y) :
    x + spacing bits x ≤ y := by
  obtain ⟨n, sameX⟩ := heldX.multiple positive
  have positiveY := positive.trans less
  rcases (Int.log_mono_right (b := 2) positive less.le).lt_or_eq
    with lower | sameLog
  · have top := @zpow_log_succ_eq bits x positive
    have digits : (n : ℤ) + 1 ≤ 2 ^ bits := by
      have below := lt_zpow_log (x := x)
      rw [top] at below
      conv_lhs at below => rw [sameX]
      have cast := lt_of_mul_lt_mul_right below spacing_pos.le
      exact_mod_cast cast
    calc x + spacing bits x = ((n : ℤ) + 1 : ℤ) * spacing bits x := by
          conv_lhs => lhs; rw [sameX]
          push_cast
          ring
      _ ≤ ((2 ^ bits : ℤ) : ℚ) * spacing bits x :=
          mul_le_mul_of_nonneg_right (Int.cast_le.mpr digits) spacing_pos.le
      _ = 2 ^ (Int.log 2 x + 1) := top.symm
      _ ≤ 2 ^ Int.log 2 y := zpow_le_zpow_right₀ one_le_two lower
      _ ≤ y := zpow_log_le positiveY
  · obtain ⟨m, sameY⟩ := heldY.multiple positiveY
    have sameSpacing : spacing bits y = spacing bits x := by
      rw [spacing, spacing, abs_of_pos positive, abs_of_pos positiveY,
        sameLog]
    rw [sameSpacing] at sameY
    have digits : n + 1 ≤ m := by
      have scaled := less
      rw [sameY] at scaled
      conv_lhs at scaled => rw [sameX]
      have cast := lt_of_mul_lt_mul_right scaled spacing_pos.le
      exact_mod_cast cast
    have cast : ((n : ℚ) + 1) ≤ m := by exact_mod_cast digits
    calc x + spacing bits x = (n + 1) * spacing bits x := by
          conv_lhs => lhs; rw [sameX]
          ring
      _ ≤ m * spacing bits x :=
          mul_le_mul_of_nonneg_right cast spacing_pos.le
      _ = y := sameY.symm

theorem nearest_mul_le_mul (heldX : Representable bits x)
    (heldY : Representable bits y) (positive : 0 < factor) (less : x < y) :
    nearest bits (factor * x) ≤ factor * y := by
  rcases heldX.nonneg.lt_or_eq with some | zero
  · have product := mul_pos positive some
    have next := add_spacing_le heldX heldY some less
    have log : Int.log 2 (factor * x) < Int.log 2 factor + Int.log 2 x + 2 := by
      apply (Int.lt_zpow_iff_log_lt (b := 2) (by norm_num) product).mp
      have exponents : Int.log 2 factor + Int.log 2 x + 2 =
          (Int.log 2 factor + 1) + (Int.log 2 x + 1) := by ring
      push_cast
      rw [exponents, two_zpow_add]
      exact mul_lt_mul'' lt_zpow_log lt_zpow_log positive.le some.le
    have half : spacing bits (factor * x) / 2 ≤ factor * spacing bits x := by
      have exponents : Int.log 2 factor + (Int.log 2 x + 1 - bits) + 1 =
          Int.log 2 factor + Int.log 2 x + 2 - bits := by ring
      have bound : spacing bits (factor * x) ≤
          2 ^ Int.log 2 factor * spacing bits x * 2 := by
        rw [spacing, spacing, abs_of_pos product, abs_of_pos some,
          ← two_zpow_add, ← zpow_add_one₀ two_ne_zero, exponents]
        exact zpow_le_zpow_right₀ one_le_two (by omega)
      have scaled := mul_le_mul_of_nonneg_right (zpow_log_le positive)
        (@spacing_pos bits x).le
      linarith
    have scaled := mul_le_mul_of_nonneg_left next positive.le
    have rounded := @nearest_le_add_half bits (factor * x)
    linarith
  · rw [← zero, mul_zero, nearest_zero]
    exact mul_nonneg positive.le heldY.nonneg

theorem nearest_le_iff {digits : ℕ} {exponent : ℤ} (many : 0 < bits)
    (full : 2 ^ (bits - 1) ≤ digits) (small : digits + 1 < 2 ^ bits)
    (even : (digits : ℤ) % 2 = 0) (nonneg : 0 ≤ x) :
    nearest bits x ≤ digits * 2 ^ exponent ↔
      x ≤ (digits + 1 / 2) * 2 ^ exponent := by
  have unit : (0 : ℚ) < 2 ^ exponent := zpow_pos two_pos _
  have fullCast : ((2 : ℚ) ^ (bits - 1)) ≤ digits := by exact_mod_cast full
  have smallCast : (digits : ℚ) + 1 < 2 ^ bits := by exact_mod_cast small
  rcases lt_or_ge x (2 ^ ((bits - 1 : ℕ) + exponent)) with low | atLeast
  · rw [two_zpow_add, zpow_natCast] at low
    have most : nearest bits x ≤ digits * 2 ^ exponent := by
      have mono := nearest_mono many nonneg low.le
      rw [← zpow_natCast, ← two_zpow_add, nearest_of_representable
        (representable_zpow many _), two_zpow_add, zpow_natCast] at mono
      exact mono.trans (mul_le_mul_of_nonneg_right fullCast unit.le)
    have under : x ≤ (digits + 1 / 2) * 2 ^ exponent :=
      low.le.trans (mul_le_mul_of_nonneg_right (by linarith) unit.le)
    exact iff_of_true most under
  · have positive : 0 < x := (zpow_pos two_pos _).trans_le atLeast
    have lower := (Int.zpow_le_iff_le_log (b := 2) (by norm_num)
      positive).mp (by exact_mod_cast atLeast)
    rcases lt_or_ge x (2 ^ ((bits : ℤ) + exponent)) with inside | above
    · have upper := (Int.lt_zpow_iff_log_lt (b := 2) (by norm_num)
        positive).mp (by exact_mod_cast inside)
      have log : Int.log 2 |x| + 1 - bits = exponent := by
        rw [abs_of_pos positive]
        omega
      rw [nearest, spacing, log, mul_le_mul_iff_left₀ unit,
        ← div_le_iff₀ unit]
      have cast := nearestInt_le_iff (x := x / 2 ^ exponent) even
      exact_mod_cast cast
    · have power : (2 : ℚ) ^ ((bits : ℤ) + exponent) ≤ nearest bits x := by
        have mono := nearest_mono many (zpow_pos two_pos _).le above
        rwa [nearest_of_representable (representable_zpow many _)] at mono
      rw [two_zpow_add, zpow_natCast] at power above
      apply iff_of_false
      · rw [not_le]
        exact (mul_lt_mul_of_pos_right (by linarith) unit).trans_le power
      · rw [not_le]
        exact (mul_lt_mul_of_pos_right (by linarith) unit).trans_le above

theorem nearest_div_le_one_iff (many : 1 < bits)
    (heldX : Representable bits x) (heldY : Representable bits y)
    (positive : 0 < y) : nearest bits (x / y) ≤ 1 ↔ x ≤ y := by
  have some : 0 < bits := by omega
  constructor
  · intro le
    by_contra above
    rw [not_le] at above
    have double : 2 ^ bits = 2 ^ (bits - 1) * 2 := by
      rw [← pow_succ, Nat.sub_add_cancel some]
    have two : 2 ≤ 2 ^ (bits - 1) := by
      calc 2 = 2 ^ 1 := rfl
        _ ≤ 2 ^ (bits - 1) := Nat.pow_le_pow_right two_pos (by omega)
    have even : ((2 ^ (bits - 1) : ℕ) : ℤ) % 2 = 0 := by
      obtain ⟨half, same⟩ := dvd_pow_self 2 (by omega : bits - 1 ≠ 0)
      rw [same]
      omega
    have unit : ((2 ^ (bits - 1) : ℕ) : ℚ) * 2 ^ (-((bits - 1 : ℕ) : ℤ)) =
        1 := by
      rw [zpow_neg, zpow_natCast]
      push_cast
      exact mul_inv_cancel₀ (pow_ne_zero _ two_ne_zero)
    have middle := (nearest_le_iff some (le_refl (2 ^ (bits - 1)))
      (by omega) even (div_nonneg heldX.nonneg positive.le)).mp
      (le.trans_eq unit.symm)
    rw [add_mul, unit, div_le_iff₀ positive] at middle
    have next := add_spacing_le heldY heldX positive above
    have wide : y * (1 / 2 * 2 ^ (-((bits - 1 : ℕ) : ℤ))) <
        spacing bits y := by
      have exponents : Int.log 2 y + 1 - bits =
          (Int.log 2 y + 1) + (-1 + -((bits - 1 : ℕ) : ℤ)) := by omega
      rw [spacing, abs_of_pos positive, exponents, two_zpow_add,
        two_zpow_add (-1), zpow_neg_one, ← one_div]
      exact mul_lt_mul_of_pos_right lt_zpow_log
        (mul_pos (by norm_num) (zpow_pos two_pos _))
    linarith
  · intro le
    have one := representable_zpow some 0
    rw [zpow_zero] at one
    have mono := nearest_mono some (div_nonneg heldX.nonneg positive.le)
      ((div_le_one positive).mpr le)
    rwa [nearest_of_representable one] at mono

end Representable

end NearestEven
