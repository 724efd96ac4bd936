import CurrencyWallet.Amount
import CurrencyWallet.Decimal.Arithmetic
import Mathlib.Algebra.Order.Field.Rat
import Mathlib.Tactic.FieldSimp
import Mathlib.Tactic.Linarith
import Mathlib.Tactic.Positivity
import Mathlib.Tactic.Ring

/-!
# The value of a decimal

A decimal stands for a rational number. The order of decimals is the order of their
values, and both `units` and `coefficientAt` count the value in whole steps, so
statements about money can speak of values while proofs about digits speak of whole
numbers.
-/

namespace CurrencyWallet

namespace Decimal

def value (d : Decimal) : ℚ :=
  d.coefficient / 10 ^ d.scale

/-!
## Values as whole numbers
-/

theorem coefficientAt_eq_value_mul {d : Decimal} {scale : Nat} (h : d.scale ≤ scale) :
    (d.coefficientAt scale : ℚ) = d.value * 10 ^ scale := by
  have hpow : (10 : ℚ) ^ scale = 10 ^ d.scale * 10 ^ (scale - d.scale) := by
    rw [← pow_add, Nat.add_sub_cancel' h]
  have hne : (10 : ℚ) ^ d.scale ≠ 0 := by positivity
  unfold coefficientAt value
  rw [hpow]
  push_cast
  field_simp

theorem abs_value_mul_lt (d : Decimal) : |d.value| * 10 ^ d.scale < 2 ^ 96 := by
  have hpos : (0 : ℚ) < 10 ^ d.scale := by positivity
  have hdigits : |(d.coefficient : ℚ)| = d.mantissa := by
    rw [coefficient]
    cases d.negative with
    | false => simp
    | true => simp
  rw [value, abs_div, abs_of_pos hpos, div_mul_cancel₀ _ (ne_of_gt hpos), hdigits]
  exact_mod_cast d.mantissa_lt

theorem units_eq_value_mul (d : Decimal) : (d.units : ℚ) = d.value * 10 ^ 28 :=
  coefficientAt_eq_value_mul d.scale_le

theorem coefficientAt_le_iff {a b : Decimal} {scale : Nat} (ha : a.scale ≤ scale)
    (hb : b.scale ≤ scale) : a.coefficientAt scale ≤ b.coefficientAt scale <-> a.value ≤ b.value := by
  have hpos : (0 : ℚ) < 10 ^ scale := by positivity
  rw [← Int.cast_le (R := ℚ), coefficientAt_eq_value_mul ha, coefficientAt_eq_value_mul hb]
  exact mul_le_mul_iff_left₀ hpos

theorem value_le_value_iff {a b : Decimal} : a.value ≤ b.value <-> a ≤ b :=
  (coefficientAt_le_iff a.scale_le b.scale_le).symm

theorem value_lt_value_iff {a b : Decimal} : a.value < b.value <-> a < b := by
  rw [← not_le, value_le_value_iff, le_iff_units_le, not_le, lt_iff_units_lt]

theorem sameValue_iff {a b : Decimal} : a.SameValue b <-> a.value = b.value := by
  rw [le_antisymm_iff, value_le_value_iff, value_le_value_iff]
  exact Int.le_antisymm_iff

theorem not_lt_iff_le {a b : Decimal} : ¬ a < b <-> b ≤ a := by
  rw [← value_lt_value_iff, ← value_le_value_iff, not_lt]

@[simp] theorem value_zero : zero.value = 0 := by
  simp [value, coefficient, zero]

theorem value_pos_iff {d : Decimal} : 0 < d.value <-> zero < d := by
  rw [← value_lt_value_iff, value_zero]

theorem zero_le_value_iff {d : Decimal} : 0 ≤ d.value <-> zero ≤ d := by
  rw [← value_le_value_iff, value_zero]

theorem coefficient_eq_zero_iff {d : Decimal} : d.coefficient = 0 <-> d.IsZero := by
  unfold coefficient IsZero
  cases d.negative with
  | false => simp
  | true => simp

theorem value_eq_zero_iff {d : Decimal} : d.value = 0 <-> d.IsZero := by
  have hne : (10 : ℚ) ^ d.scale ≠ 0 := by positivity
  rw [← coefficient_eq_zero_iff, value, div_eq_zero_iff]
  simp [hne]

@[simp] theorem value_negate (d : Decimal) : d.negate.value = -d.value := by
  unfold value negate coefficient
  cases d.negative with
  | false => simp [neg_div]
  | true => simp [neg_div]

theorem value_nonneg_iff {d : Decimal} : 0 ≤ d.value <-> 0 ≤ d.coefficient := by
  have hpos : (0 : ℚ) < 10 ^ d.scale := by positivity
  rw [value, le_div_iff₀ hpos, zero_mul]
  exact_mod_cast Iff.rfl

end Decimal

end CurrencyWallet
