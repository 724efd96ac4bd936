import CurrencyWallet.Proofs.Decimal.Fitting

/-!
# Sums, differences, products and rounding

What the operations do to values. A sum is exact as long as its digits fit into 96 bits,
and otherwise it is on the same side of every decimal as the exact sum. A difference is the
sum with the opposite number.
-/

namespace CurrencyWallet

namespace Decimal

/-!
## Sums
-/

section Sums

variable {a b c r : Decimal}

theorem coefficientAt_add_eq_value_mul (a b : Decimal) :
    ((a.coefficientAt (max a.scale b.scale) + b.coefficientAt (max a.scale b.scale) : Int) : ℚ) =
      (a.value + b.value) * 10 ^ max a.scale b.scale := by
  push_cast
  rw [coefficientAt_eq_value_mul (Nat.le_max_left _ _),
    coefficientAt_eq_value_mul (Nat.le_max_right _ _)]
  ring

theorem natAbs_coefficientAt_add (a b : Decimal) :
    ((a.coefficientAt (max a.scale b.scale) + b.coefficientAt (max a.scale b.scale)).natAbs : ℚ) =
      |a.value + b.value| * 10 ^ max a.scale b.scale := by
  have hpos : (0 : ℚ) < 10 ^ max a.scale b.scale := by positivity
  rw [Nat.cast_natAbs, Int.cast_abs, coefficientAt_add_eq_value_mul, abs_mul, abs_of_pos hpos]

theorem add?_cases (h : add? a b = some r) :
    (r.value = a.value + b.value ∧ r.scale ≤ max a.scale b.scale) ∨
      fit? (a.coefficientAt (max a.scale b.scale) + b.coefficientAt (max a.scale b.scale) < 0)
        (a.coefficientAt (max a.scale b.scale) + b.coefficientAt (max a.scale b.scale)).natAbs
        (max a.scale b.scale) = some r := by
  unfold add? at h
  split at h
  next ha =>
    cases h
    rw [value_eq_zero_iff.mpr ha, zero_add]
    exact Or.inl ⟨rfl, Nat.le_max_right _ _⟩
  next =>
    split at h
    next hb =>
      cases h
      rw [value_eq_zero_iff.mpr hb, add_zero]
      exact Or.inl ⟨rfl, Nat.le_max_left _ _⟩
    next =>
      exact Or.inr h

theorem scale_le_of_add? (h : add? a b = some r) : r.scale ≤ max a.scale b.scale := by
  rcases add?_cases h with ⟨_hvalue, hscale⟩ | hfit
  · exact hscale
  · exact scale_le_of_fit? hfit

theorem add?_le (h : add? a b = some r) (hc : c.scale ≤ max a.scale b.scale)
    (hle : a.value + b.value ≤ c.value) : r.value ≤ c.value := by
  rcases add?_cases h with ⟨hvalue, _hscale⟩ | hfit
  · rw [hvalue]
    exact hle
  · rw [← coefficientAt_le_iff (scale_le_of_fit? hfit) hc]
    apply fit?_le_coefficientAt hfit hc
    rw [← Int.cast_le (R := ℚ), coefficientAt_add_eq_value_mul, coefficientAt_eq_value_mul hc]
    exact mul_le_mul_of_nonneg_right hle (by positivity)

theorem le_add? (h : add? a b = some r) (hc : c.scale ≤ max a.scale b.scale)
    (hle : c.value ≤ a.value + b.value) : c.value ≤ r.value := by
  rcases add?_cases h with ⟨hvalue, _hscale⟩ | hfit
  · rw [hvalue]
    exact hle
  · rw [← coefficientAt_le_iff hc (scale_le_of_fit? hfit)]
    apply le_fit?_coefficientAt hfit hc
    rw [← Int.cast_le (R := ℚ), coefficientAt_add_eq_value_mul, coefficientAt_eq_value_mul hc]
    exact mul_le_mul_of_nonneg_right hle (by positivity)

theorem add?_exact (h : |a.value + b.value| * 10 ^ max a.scale b.scale < 2 ^ 96) :
    exists r, add? a b = some r ∧ r.value = a.value + b.value := by
  unfold add?
  split
  next ha =>
    exact ⟨b, rfl, by rw [value_eq_zero_iff.mpr ha, zero_add]⟩
  next =>
    split
    next hb =>
      exact ⟨a, rfl, by rw [value_eq_zero_iff.mpr hb, add_zero]⟩
    next =>
      have hpos : (0 : ℚ) < 10 ^ max a.scale b.scale := by positivity
      have hsum := coefficientAt_add_eq_value_mul a b
      have hfits : (a.coefficientAt (max a.scale b.scale) +
          b.coefficientAt (max a.scale b.scale)).natAbs < 2 ^ 96 := by
        rw [← Nat.cast_lt (α := ℚ), natAbs_coefficientAt_add]
        exact_mod_cast h
      rcases fit?_eq_some_of_lt hfits (max_le a.scale_le b.scale_le) with ⟨r, hr, hscale, hcoefficient⟩
      refine ⟨r, hr, ?_⟩
      have hvalue := coefficientAt_eq_value_mul (Nat.le_of_eq hscale)
      rw [hcoefficient, hsum] at hvalue
      exact (mul_right_cancel₀ (ne_of_gt hpos) hvalue).symm

theorem exists_add? (h : |a.value + b.value| ≤ 2 ^ 96 - 1) : exists r, add? a b = some r := by
  unfold add?
  split
  next =>
    exact ⟨b, rfl⟩
  next =>
    split
    next =>
      exact ⟨a, rfl⟩
    next =>
      have hwhole : (a.coefficientAt (max a.scale b.scale) +
          b.coefficientAt (max a.scale b.scale)).natAbs ≤
            (2 ^ 96 - 1) * 10 ^ max a.scale b.scale := by
        rw [← Nat.cast_le (α := ℚ), natAbs_coefficientAt_add]
        push_cast
        exact mul_le_mul_of_nonneg_right (h.trans (by norm_num)) (by positivity)
      have hrounded := divHalfEven_le (Nat.pow_pos (by decide)) hwhole
      exact exists_fit? _ (by omega)

end Sums

/-!
## Differences
-/

section Differences

variable {a b c r : Decimal}

theorem isZero_negate_iff : b.negate.IsZero <-> b.IsZero :=
  Iff.rfl

/-- A difference is the sum with the opposite number, except that two zeros give the second
one and not its opposite. -/
theorem sub?_eq_add?_negate (h : ¬ (a.IsZero ∧ b.IsZero)) : sub? a b = add? a b.negate := by
  unfold sub? add?
  by_cases ha : a.IsZero
  · have hb : ¬ b.IsZero := fun hb => h ⟨ha, hb⟩
    rw [if_pos ha, if_pos ha, if_neg hb]
  · rw [if_neg ha, if_neg ha]
    by_cases hb : b.IsZero
    · rw [if_pos hb, if_pos (isZero_negate_iff.mpr hb)]
    · rw [if_neg hb, if_neg (fun hneg => hb (isZero_negate_iff.mp hneg))]
      have hcoefficient : b.negate.coefficientAt (max a.scale b.scale) =
          -b.coefficientAt (max a.scale b.scale) := by
        unfold coefficientAt coefficient negate
        cases b.negative with
        | false => simp
        | true => simp
      change fit? (a.coefficientAt (max a.scale b.scale) - b.coefficientAt (max a.scale b.scale) < 0)
          (a.coefficientAt (max a.scale b.scale) - b.coefficientAt (max a.scale b.scale)).natAbs
          (max a.scale b.scale) =
        fit? (a.coefficientAt (max a.scale b.scale) + b.negate.coefficientAt (max a.scale b.scale) < 0)
          (a.coefficientAt (max a.scale b.scale) +
            b.negate.coefficientAt (max a.scale b.scale)).natAbs
          (max a.scale b.scale)
      rw [hcoefficient, ← Int.sub_eq_add_neg]

theorem sub?_of_isZero (ha : a.IsZero) (hb : b.IsZero) : sub? a b = some b := by
  rw [sub?, if_pos ha, if_pos hb]

theorem scale_le_of_sub? (h : sub? a b = some r) : r.scale ≤ max a.scale b.scale := by
  by_cases hzero : a.IsZero ∧ b.IsZero
  · rw [sub?_of_isZero hzero.left hzero.right] at h
    cases h
    exact Nat.le_max_right _ _
  · rw [sub?_eq_add?_negate hzero] at h
    have hscale := scale_le_of_add? h
    exact hscale

theorem sub?_le (h : sub? a b = some r) (hc : c.scale ≤ max a.scale b.scale)
    (hle : a.value - b.value ≤ c.value) : r.value ≤ c.value := by
  by_cases hzero : a.IsZero ∧ b.IsZero
  · rw [sub?_of_isZero hzero.left hzero.right] at h
    cases h
    rw [value_eq_zero_iff.mpr hzero.left, value_eq_zero_iff.mpr hzero.right, sub_zero] at hle
    rwa [value_eq_zero_iff.mpr hzero.right]
  · rw [sub?_eq_add?_negate hzero] at h
    apply add?_le h hc
    rwa [value_negate, ← sub_eq_add_neg]

theorem le_sub? (h : sub? a b = some r) (hc : c.scale ≤ max a.scale b.scale)
    (hle : c.value ≤ a.value - b.value) : c.value ≤ r.value := by
  by_cases hzero : a.IsZero ∧ b.IsZero
  · rw [sub?_of_isZero hzero.left hzero.right] at h
    cases h
    rw [value_eq_zero_iff.mpr hzero.left, value_eq_zero_iff.mpr hzero.right, sub_zero] at hle
    rwa [value_eq_zero_iff.mpr hzero.right]
  · rw [sub?_eq_add?_negate hzero] at h
    apply le_add? h hc
    rwa [value_negate, ← sub_eq_add_neg]

theorem sub?_exact (h : |a.value - b.value| * 10 ^ max a.scale b.scale < 2 ^ 96) :
    exists r, sub? a b = some r ∧ r.value = a.value - b.value := by
  by_cases hzero : a.IsZero ∧ b.IsZero
  · refine ⟨b, sub?_of_isZero hzero.left hzero.right, ?_⟩
    rw [value_eq_zero_iff.mpr hzero.left, value_eq_zero_iff.mpr hzero.right, sub_zero]
  · rw [sub?_eq_add?_negate hzero, sub_eq_add_neg, ← value_negate]
    apply add?_exact
    rwa [value_negate, ← sub_eq_add_neg]

theorem exists_sub? (h : |a.value - b.value| ≤ 2 ^ 96 - 1) : exists r, sub? a b = some r := by
  by_cases hzero : a.IsZero ∧ b.IsZero
  · exact ⟨b, sub?_of_isZero hzero.left hzero.right⟩
  · rw [sub?_eq_add?_negate hzero]
    apply exists_add?
    rwa [value_negate, ← sub_eq_add_neg]

/-- What is taken away is not lost by rounding: if it is too much, less than nothing is left. -/
theorem value_neg_of_sub? (h : sub? a b = some r) (hlt : a.value < b.value) : r.value < 0 := by
  -- The numbers are a whole number of steps apart, so they are apart by at least one step.
  let step : Decimal := ⟨true, 1, max a.scale b.scale, by decide, max_le a.scale_le b.scale_le⟩
  have hpos : (0 : ℚ) < 10 ^ max a.scale b.scale := by positivity
  have hstep : step.value = -1 / 10 ^ max a.scale b.scale := by
    simp [value, coefficient, step]
  have hapart : a.value - b.value ≤ step.value := by
    have hless : a.coefficientAt (max a.scale b.scale) + 1 ≤
        b.coefficientAt (max a.scale b.scale) := by
      rw [Int.add_one_le_iff, ← not_le,
        coefficientAt_le_iff (Nat.le_max_right _ _) (Nat.le_max_left _ _), not_le]
      exact hlt
    rw [← Int.cast_le (R := ℚ)] at hless
    push_cast at hless
    rw [coefficientAt_eq_value_mul (Nat.le_max_left _ _),
      coefficientAt_eq_value_mul (Nat.le_max_right _ _)] at hless
    rw [hstep, le_div_iff₀ hpos]
    linarith
  have hneg : step.value < 0 := by
    rw [hstep]
    exact div_neg_of_neg_of_pos (by norm_num) hpos
  exact lt_of_le_of_lt (sub?_le h le_rfl hapart) hneg

end Differences

/-!
## Products
-/

theorem negative_eq_false_of_value_pos {d : Decimal} (h : 0 < d.value) : d.negative = false := by
  cases hneg : d.negative with
  | false =>
      rfl
  | true =>
      exfalso
      have hcoefficient : d.coefficient ≤ 0 := by
        rw [coefficient, if_pos hneg]
        omega
      have hscale : (0 : ℚ) < 10 ^ d.scale := by positivity
      have hle : d.value ≤ 0 := by
        rw [value, div_le_iff₀ hscale, zero_mul]
        exact_mod_cast hcoefficient
      linarith

theorem value_nonneg_of_negative_eq_false {d : Decimal} (h : d.negative = false) : 0 ≤ d.value := by
  rw [value_nonneg_iff, coefficient, if_neg (by simp [h])]
  omega

theorem mul?_nonneg {a b r : Decimal} (h : mul? a b = some r) (ha : 0 < a.value)
    (hb : 0 < b.value) : 0 ≤ r.value := by
  unfold mul? at h
  split at h
  · cases h
    rw [value_zero]
  · split at h
    · cases h
      rw [value_zero]
    · rw [negative_eq_false_of_value_pos ha, negative_eq_false_of_value_pos hb] at h
      exact value_nonneg_of_negative_eq_false (fit?_cases h).right.left

theorem mul?_exact {a b : Decimal} (hfits : a.mantissa * b.mantissa < 2 ^ 96)
    (hroom : a.scale + b.scale ≤ 28) :
    exists r, mul? a b = some r ∧ r.scale ≤ a.scale + b.scale ∧ r.value = a.value * b.value := by
  unfold mul?
  split
  next hzero =>
    refine ⟨zero, rfl, Nat.zero_le _, ?_⟩
    rw [value_zero, eq_comm, mul_eq_zero, value_eq_zero_iff, value_eq_zero_iff]
    exact hzero
  next hnonzero =>
    have hnone : a.mantissa * b.mantissa ≠ 0 := fun h => hnonzero (Nat.mul_eq_zero.mp h)
    have hparts : ofParts? (a.negative != b.negative) (a.mantissa * b.mantissa)
        (a.scale + b.scale) = some ⟨a.negative != b.negative, a.mantissa * b.mantissa,
          a.scale + b.scale, hfits, hroom⟩ :=
      ofParts?_eq_some_iff.mpr ⟨by simp [hnone], rfl, rfl⟩
    rw [if_neg (by omega), fit?_of_lt _ hfits hroom, hparts]
    refine ⟨_, rfl, Nat.le_refl _, ?_⟩
    unfold value coefficient
    rw [pow_add, div_mul_div_comm]
    cases a.negative with
    | false => cases b.negative <;> simp
    | true => cases b.negative <;> simp

/-!
## Rounding
-/

theorem divHalfUp_le_self {n d : Nat} (hd : 2 ≤ d) : divHalfUp n d ≤ n := by
  unfold divHalfUp
  apply Nat.le_of_lt_succ
  rw [Nat.div_lt_iff_lt_mul (by omega)]
  have hgrow : n * 2 ≤ n * d := Nat.mul_le_mul_left n hd
  calc
    2 * n + d < n * d + n * d + 2 * d := by omega
    _ = (n + 1) * (2 * d) := by ring

theorem round_of_scale_le {d : Decimal} {places : Nat} (h : d.scale ≤ places) :
    d.round places = d := by
  rw [round, if_pos h]

/-- A decimal with more digits than asked for is rounded to exactly that many, and its sign is
lost only with its last digit. -/
theorem round_of_lt_scale {d : Decimal} {places : Nat} (h : places < d.scale) :
    (d.round places).scale = places ∧
      (d.round places).coefficient =
        if d.negative then -(divHalfUp d.mantissa (10 ^ (d.scale - places)) : Int)
        else (divHalfUp d.mantissa (10 ^ (d.scale - places)) : Int) := by
  have hten : 2 ≤ 10 ^ (d.scale - places) := by
    calc
      2 ≤ 10 ^ 1 := by decide
      _ ≤ 10 ^ (d.scale - places) := Nat.pow_le_pow_right (by decide) (by omega)
  have hroom : divHalfUp d.mantissa (10 ^ (d.scale - places)) < 2 ^ 96 ∧ places ≤ 28 := by
    have hscale := d.scale_le
    exact ⟨Nat.lt_of_le_of_lt (divHalfUp_le_self hten) d.mantissa_lt, by omega⟩
  rw [round, if_neg (Nat.not_le_of_lt h)]
  dsimp only
  rw [make?, dif_pos hroom, Option.getD_some, coefficient]
  refine ⟨rfl, ?_⟩
  cases d.negative with
  | false =>
      rfl
  | true =>
      by_cases hzero : divHalfUp d.mantissa (10 ^ (d.scale - places)) = 0
      · simp [hzero]
      · simp [hzero]

theorem scale_round_le (d : Decimal) (places : Nat) : (d.round places).scale ≤ places := by
  rcases Nat.lt_or_ge places d.scale with hlt | hge
  · rw [(round_of_lt_scale hlt).left]
  · rw [round_of_scale_le hge]
    exact hge

theorem round_nonneg {d : Decimal} (places : Nat) (h : 0 ≤ d.value) :
    0 ≤ (d.round places).value := by
  rcases Nat.lt_or_ge places d.scale with hlt | hge
  · rw [value_nonneg_iff, (round_of_lt_scale hlt).right]
    cases hneg : d.negative with
    | false =>
        exact Int.natCast_nonneg _
    | true =>
        -- A minus sign on a number that is not negative stands before a zero.
        have hzero : d.mantissa = 0 := by
          rw [value_nonneg_iff, coefficient, if_pos hneg] at h
          omega
        have hpos : 0 < 10 ^ (d.scale - places) := Nat.pow_pos (by decide)
        have hnone : divHalfUp d.mantissa (10 ^ (d.scale - places)) = 0 := by
          rw [hzero, divHalfUp]
          exact Nat.div_eq_of_lt (by omega)
        rw [hnone]
        decide
  · rw [round_of_scale_le hge]
    exact h

end Decimal

end CurrencyWallet
