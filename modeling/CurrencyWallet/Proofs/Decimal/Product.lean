import CurrencyWallet.Proofs.Decimal.Rounding

/-!
# Products

A product is fitted, so no decimal lies between it and the exact product: what is a decimal is
not rounded at all. Where the next place is rounded away it still is on the same side of every
midpoint between two decimals, or on the midpoint.
-/

namespace CurrencyWallet

namespace Decimal

/-!
## Fitting to the nearest
-/

section Steps

variable {negative : Bool} {m s t n : Nat} {r : Decimal} (h : fit? negative m s = some r)
  (ht : t < 28) (hts : t < s) (hn : n + 1 < 2 ^ 96) (hle : n * 10 ^ (s - t) ≤ m)
  (hlt : m < (n + 1) * 10 ^ (s - t))

include ht hts hn hlt

theorem surplus_le_of_lt : surplus m s ≤ s - t := by
  by_contra hmore
  rcases long_of_surplus (by omega : s - 28 < surplus m s) with ⟨k, hk, hlong⟩
  have hgrow : 10 ^ (s - t) ≤ 10 ^ k := Nat.pow_le_pow_right (by decide) (by omega)
  have hshort : (n + 1) * 10 ^ (s - t) ≤ 2 ^ 96 * 10 ^ k :=
    Nat.mul_le_mul (Nat.le_of_lt hn) hgrow
  omega

include h

theorem near_of_fit? :
    2 * r.magnitudeAt s ≤ 2 * m + 10 ^ (s - t) ∧ 2 * m ≤ 2 * r.magnitudeAt s + 10 ^ (s - t) := by
  have hsurplus := surplus_le_of_lt ht hts hn hlt
  have hpos : 0 < 10 ^ surplus m s := Nat.pow_pos (by decide)
  have hlower := two_mul_le_divHalfEven (n := m) hpos
  have hupper := two_mul_divHalfEven_le (n := m) hpos
  rcases magnitudeAt_of_fit? h with ⟨_hsmall, hmag⟩ | ⟨hfull, hmag⟩
  · have hgrow : 10 ^ surplus m s ≤ 10 ^ (s - t) := Nat.pow_le_pow_right (by decide) hsurplus
    rw [hmag]
    omega
  · -- A carry needs a digit more than the place has, so there is one to spare.
    rw [hfull] at hlower hupper
    have hspare : surplus m s + 1 ≤ s - t := by
      by_contra hnone
      have hall : surplus m s = s - t := by omega
      have hshort : (n + 1) * 10 ^ (s - t) ≤ (2 ^ 96 - 1) * 10 ^ (s - t) :=
        Nat.mul_le_mul_right _ (by omega)
      rw [hall] at hupper
      omega
    have hgrow : 10 ^ (surplus m s + 1) ≤ 10 ^ (s - t) := Nat.pow_le_pow_right (by decide) hspare
    have hcarried : carried = 7922816251426433759354395034 := by decide
    rw [Nat.pow_succ] at hgrow hmag
    rw [hmag, hcarried]
    omega

include hle

/-- A number between two neighbours at a place is not fitted to anything beyond them. -/
theorem between_of_fit? : n * 10 ^ (s - t) ≤ r.magnitudeAt s ∧
    r.magnitudeAt s ≤ (n + 1) * 10 ^ (s - t) :=
  ⟨le_magnitudeAt_of_fit? h (by omega) (Nat.le_of_lt ht) (Nat.le_of_lt hts) hle,
    magnitudeAt_le_of_fit? h hn (Nat.le_of_lt ht) (Nat.le_of_lt hts) (Nat.le_of_lt hlt)⟩

/-- Where the midpoint has no room, nothing behind the place has. -/
theorem whole_of_long (hlong : 2 ^ 96 ≤ 10 * n + 5) :
    r.magnitudeAt s = n * 10 ^ (s - t) ∨ r.magnitudeAt s = (n + 1) * 10 ^ (s - t) := by
  have hpos : 0 < 10 ^ (s - t) := Nat.pow_pos (by decide)
  rcases between_of_fit? h ht hts hn hle hlt with ⟨hlower, hupper⟩
  have hscale : r.scale ≤ t := by
    by_contra hmore
    have hdigits : r.magnitudeAt s ≤ r.mantissa * 10 ^ (s - t - 1) :=
      Nat.mul_le_mul_left _ (Nat.pow_le_pow_right (by decide) (by omega))
    have hstep : 10 ^ (s - t) = 10 * 10 ^ (s - t - 1) := by
      rw [← Nat.pow_succ', Nat.succ_eq_add_one, Nat.sub_add_cancel (by omega)]
    rw [hstep, ← Nat.mul_assoc] at hlower
    have hmantissa : n * 10 ≤ r.mantissa :=
      Nat.le_of_mul_le_mul_right (Nat.le_trans hlower hdigits) (Nat.pow_pos (by decide))
    have hfits := r.mantissa_lt
    omega
  have hwhole : r.magnitudeAt s = r.mantissa * 10 ^ (t - r.scale) * 10 ^ (s - t) := by
    rw [magnitudeAt, Nat.mul_assoc, ← Nat.pow_add]
    congr 2
    omega
  rw [hwhole] at hlower hupper ⊢
  have hge := Nat.le_of_mul_le_mul_right hlower hpos
  have hle' := Nat.le_of_mul_le_mul_right hupper hpos
  rcases Nat.lt_or_ge n (r.mantissa * 10 ^ (t - r.scale)) with hmore | hsame
  · right
    rw [Nat.le_antisymm hle' hmore]
  · left
    rw [Nat.le_antisymm hsame hge]

omit h ht hn hle hlt in
/-- A midpoint has one digit more than its neighbours. -/
theorem midpoint_eq : (2 * n + 1) * 10 ^ (s - t) = 2 * ((10 * n + 5) * 10 ^ (s - (t + 1))) := by
  have hstep : 10 ^ (s - t) = 10 ^ (s - (t + 1)) * 10 := by
    rw [← Nat.pow_succ, Nat.succ_eq_add_one, Nat.sub_add_eq, Nat.sub_add_cancel (by omega)]
  rw [hstep]
  ring

theorem le_midpoint_of_fit? (hbelow : 2 * m < (2 * n + 1) * 10 ^ (s - t)) :
    2 * r.magnitudeAt s ≤ (2 * n + 1) * 10 ^ (s - t) := by
  rcases Nat.lt_or_ge (10 * n + 5) (2 ^ 96) with hshort | hlong
  · rw [midpoint_eq hts] at hbelow ⊢
    have hbound : m ≤ (10 * n + 5) * 10 ^ (s - (t + 1)) := by omega
    exact Nat.mul_le_mul_left 2 (magnitudeAt_le_of_fit? h hshort ht hts hbound)
  · have hnear := (near_of_fit? h ht hts hn hlt).left
    have hmiddle : (2 * n + 1) * 10 ^ (s - t) = 2 * (n * 10 ^ (s - t)) + 10 ^ (s - t) := by ring
    have hupper : (n + 1) * 10 ^ (s - t) = n * 10 ^ (s - t) + 10 ^ (s - t) := Nat.succ_mul _ _
    rcases whole_of_long h ht hts hn hle hlt hlong with hwhole | hwhole <;> omega

theorem midpoint_le_of_fit? (habove : (2 * n + 1) * 10 ^ (s - t) < 2 * m) :
    (2 * n + 1) * 10 ^ (s - t) ≤ 2 * r.magnitudeAt s := by
  rcases Nat.lt_or_ge (10 * n + 5) (2 ^ 96) with hshort | hlong
  · rw [midpoint_eq hts] at habove ⊢
    have hbound : (10 * n + 5) * 10 ^ (s - (t + 1)) ≤ m := by omega
    exact Nat.mul_le_mul_left 2 (le_magnitudeAt_of_fit? h hshort ht hts hbound)
  · have hnear := (near_of_fit? h ht hts hn hlt).right
    have hmiddle : (2 * n + 1) * 10 ^ (s - t) = 2 * (n * 10 ^ (s - t)) + 10 ^ (s - t) := by ring
    have hupper : (n + 1) * 10 ^ (s - t) = n * 10 ^ (s - t) + 10 ^ (s - t) := Nat.succ_mul _ _
    rcases whole_of_long h ht hts hn hle hlt hlong with hwhole | hwhole <;> omega

end Steps

/-!
## Products of positive numbers
-/

theorem value_eq_div_of_nonnegative {d : Decimal} (h : d.negative = false) :
    d.value = d.mantissa / 10 ^ d.scale := by
  rw [value, coefficient, if_neg (by simp [h])]
  push_cast
  rfl

theorem natCast_le_value_mul_iff {d : Decimal} {n : Nat} :
    n ≤ d.value * 10 ^ 28 <-> n - 1 / 2 ≤ d.value * 10 ^ 28 := by
  rw [← units_eq_value_mul]
  constructor
  · intro h
    linarith
  · intro h
    have hless : (n : ℤ) < d.units + 1 := by
      rw [← Int.cast_lt (R := ℚ)]
      push_cast
      linarith
    exact_mod_cast Int.lt_add_one_iff.mp hless

/-- What fitting does to a number `x` from `n` to `n + 1`: the fitted number `y` is in the same
range and not on the other side of its middle. -/
structure FittedBetween (n : Nat) (x y : ℚ) : Prop where
  lower : n ≤ y
  upper : y ≤ n + 1
  below : x < n + 1 / 2 -> y ≤ n + 1 / 2
  above : n + 1 / 2 < x -> n + 1 / 2 ≤ y

section Products

variable {a b c r : Decimal} (ha : 0 < a.value) (hb : 0 < b.value)

include ha hb

theorem mantissa_mul_eq : ((a.mantissa * b.mantissa : Nat) : ℚ) =
    a.value * b.value * 10 ^ (a.scale + b.scale) := by
  rw [value_eq_div_of_nonnegative (negative_eq_false_of_value_pos ha),
    value_eq_div_of_nonnegative (negative_eq_false_of_value_pos hb), pow_add]
  push_cast
  field_simp

variable (hroom : a.scale + b.scale ≤ 47)

include hroom

theorem mul?_eq_fit? :
    mul? a b = fit? false (a.mantissa * b.mantissa) (a.scale + b.scale) := by
  have hnonzero : ¬ (a.IsZero ∨ b.IsZero) := by
    rw [← value_eq_zero_iff, ← value_eq_zero_iff]
    intro hzero
    rcases hzero with hzero | hzero <;> linarith
  rw [mul?, if_neg hnonzero, if_neg (by omega), negative_eq_false_of_value_pos ha,
    negative_eq_false_of_value_pos hb]
  rfl

/-- Products are in range up to the midpoint above the largest whole number of 96 bits. -/
theorem exists_mul?_iff : (exists r, mul? a b = some r) <-> a.value * b.value < 2 ^ 96 - 1 / 2 := by
  have hpow : (0 : ℚ) < 10 ^ (a.scale + b.scale) := by positivity
  have hreached := le_divHalfEven_iff_of_even (n := a.mantissa * b.mantissa) (q := 2 ^ 96)
    (Nat.pow_pos (by decide) : 0 < 10 ^ (a.scale + b.scale)) (by decide)
  rw [mul?_eq_fit? ha hb hroom, exists_fit?_iff, ← not_le, hreached, ← Nat.cast_le (α := ℚ),
    Nat.cast_add, Nat.cast_mul 2 (a.mantissa * b.mantissa), mantissa_mul_eq ha hb]
  push_cast
  constructor
  · intro h
    by_contra hlarge
    linarith [mul_le_mul_of_nonneg_right (not_lt.mp hlarge) (le_of_lt hpow)]
  · intro h
    linarith [mul_lt_mul_of_pos_right h hpow]

theorem exists_mul? (h : a.value * b.value ≤ 2 ^ 96 - 1) : exists r, mul? a b = some r := by
  rw [exists_mul?_iff ha hb hroom]
  linarith

variable (h : mul? a b = some r)

include h

theorem magnitudeAt_mul? :
    (r.magnitudeAt (a.scale + b.scale) : ℚ) = r.value * 10 ^ (a.scale + b.scale) := by
  rw [mul?_eq_fit? ha hb hroom] at h
  rw [← coefficientAt_eq_value_mul (scale_le_of_fit? h),
    coefficientAt_of_nonnegative (fit?_cases h).right.left, Int.cast_natCast]

theorem fit?_of_mul? : fit? (((a.mantissa * b.mantissa : Nat) : Int) < 0)
    ((a.mantissa * b.mantissa : Nat) : Int).natAbs (a.scale + b.scale) = some r := by
  rw [decide_eq_false (by omega), Int.natAbs_natCast, ← mul?_eq_fit? ha hb hroom]
  exact h

theorem mul?_le (hc : c.scale ≤ a.scale + b.scale) (hle : a.value * b.value ≤ c.value) :
    r.value ≤ c.value := by
  have hfit := fit?_of_mul? ha hb hroom h
  rw [← coefficientAt_le_iff (scale_le_of_fit? hfit) hc]
  apply fit?_le_coefficientAt hfit hc
  rw [← Int.cast_le (R := ℚ), Int.cast_natCast, mantissa_mul_eq ha hb,
    coefficientAt_eq_value_mul hc]
  exact mul_le_mul_of_nonneg_right hle (by positivity)

theorem le_mul?_of_scale (hc : c.scale ≤ a.scale + b.scale) (hle : c.value ≤ a.value * b.value) :
    c.value ≤ r.value := by
  have hfit := fit?_of_mul? ha hb hroom h
  rw [← coefficientAt_le_iff hc (scale_le_of_fit? hfit)]
  apply le_fit?_coefficientAt hfit hc
  rw [← Int.cast_le (R := ℚ), Int.cast_natCast, mantissa_mul_eq ha hb,
    coefficientAt_eq_value_mul hc]
  exact mul_le_mul_of_nonneg_right hle (by positivity)

theorem le_mul? (hle : c.value ≤ a.value * b.value) : c.value ≤ r.value := by
  rcases Nat.le_total c.scale (a.scale + b.scale) with hscale | hscale
  · exact le_mul?_of_scale ha hb hroom h hscale hle
  · have hplaces : a.scale + b.scale ≤ 28 := Nat.le_trans hscale c.scale_le
    rcases Nat.lt_or_ge (a.mantissa * b.mantissa) (2 ^ 96) with hshort | hlong
    · rcases mul?_exact hshort hplaces with ⟨r', hr', _hscale, hexact⟩
      rw [h] at hr'
      cases hr'
      rwa [hexact]
    · -- The decimal is no more than the largest one at the scale of the product.
      let largest : Decimal := ⟨false, 2 ^ 96 - 1, a.scale + b.scale, by decide, hplaces⟩
      have hproduct : largest.value ≤ a.value * b.value := by
        rw [value_eq_div_of_nonnegative rfl, div_le_iff₀ (by positivity), ← mantissa_mul_eq ha hb,
          Nat.cast_le]
        exact Nat.le_trans (Nat.sub_le _ _) hlong
      have hreached := le_mul?_of_scale ha hb hroom h (Nat.le_refl _) hproduct
      rcases le_or_gt c.value 0 with hneg | hpos
      · exact le_trans hneg (mul?_nonneg h ha hb)
      · apply le_trans _ hreached
        rw [value_eq_div_of_nonnegative (negative_eq_false_of_value_pos hpos),
          value_eq_div_of_nonnegative rfl]
        have hdigits : c.mantissa ≤ 2 ^ 96 - 1 := Nat.le_sub_one_of_lt c.mantissa_lt
        have hpow : (10 : ℚ) ^ (a.scale + b.scale) ≤ 10 ^ c.scale :=
          pow_le_pow_right₀ (by norm_num) hscale
        exact div_le_div₀ (by positivity) (by exact_mod_cast hdigits) (by positivity) hpow

/-- A product that is a decimal is not rounded, however many zeros its factors end in. -/
theorem value_mul?_of_places {n t : Nat} (ht : t ≤ 28) (hn : n < 2 ^ 96)
    (hwhole : a.value * b.value * 10 ^ t = n) : r.value = a.value * b.value := by
  rcases Nat.le_total t (a.scale + b.scale) with hts | hts
  · have hexact : (⟨false, n, t, hn, ht⟩ : Decimal).value = a.value * b.value := by
      rw [value_eq_div_of_nonnegative rfl, ← hwhole]
      field_simp
    rw [← hexact]
    exact le_antisymm (mul?_le ha hb hroom h hts (le_of_eq hexact.symm))
      (le_mul? ha hb hroom h (le_of_eq hexact))
  · have hfits : a.mantissa * b.mantissa < 2 ^ 96 := by
      apply Nat.lt_of_le_of_lt _ hn
      rw [← Nat.cast_le (α := ℚ), mantissa_mul_eq ha hb, ← hwhole]
      apply mul_le_mul_of_nonneg_left _ (le_of_lt (mul_pos ha hb))
      exact pow_le_pow_right₀ (by norm_num) hts
    rcases mul?_exact hfits (Nat.le_trans hts ht) with ⟨r', hr', _hscale, hvalue⟩
    rw [h] at hr'
    cases hr'
    exact hvalue

theorem fittedBetween_of_mul? {n t : Nat} (ht : t < 28) (hts : t < a.scale + b.scale)
    (hn : n + 1 < 2 ^ 96) (hle : n ≤ a.value * b.value * 10 ^ t)
    (hlt : a.value * b.value * 10 ^ t < n + 1) :
    FittedBetween n (a.value * b.value * 10 ^ t) (r.value * 10 ^ t) := by
  have hmantissa := mantissa_mul_eq ha hb
  have hmagnitude := magnitudeAt_mul? ha hb hroom h
  have hfit := h
  rw [mul?_eq_fit? ha hb hroom] at hfit
  -- Both numbers are counted in steps of the last digit of the exact product.
  have hstep : (0 : ℚ) < ((10 ^ (a.scale + b.scale - t) : Nat) : ℚ) := by positivity
  have hpow : (10 : ℚ) ^ (a.scale + b.scale) =
      10 ^ t * ((10 ^ (a.scale + b.scale - t) : Nat) : ℚ) := by
    push_cast
    rw [← pow_add, Nat.add_sub_cancel' (Nat.le_of_lt hts)]
  rw [hpow, ← mul_assoc] at hmantissa hmagnitude
  have hle' : n * 10 ^ (a.scale + b.scale - t) ≤ a.mantissa * b.mantissa := by
    rw [← Nat.cast_le (α := ℚ), hmantissa, Nat.cast_mul]
    exact mul_le_mul_of_nonneg_right hle (le_of_lt hstep)
  have hlt' : a.mantissa * b.mantissa < (n + 1) * 10 ^ (a.scale + b.scale - t) := by
    rw [← Nat.cast_lt (α := ℚ), hmantissa, Nat.cast_mul, Nat.cast_succ]
    exact mul_lt_mul_of_pos_right hlt hstep
  rcases between_of_fit? hfit ht hts hn hle' hlt' with ⟨hlower, hupper⟩
  rw [← Nat.cast_le (α := ℚ), hmagnitude, Nat.cast_mul] at hlower hupper
  constructor
  · exact le_of_mul_le_mul_right hlower hstep
  · rw [Nat.cast_succ] at hupper
    exact le_of_mul_le_mul_right hupper hstep
  · intro hbelow
    have hcounted : 2 * (a.mantissa * b.mantissa) < (2 * n + 1) * 10 ^ (a.scale + b.scale - t) := by
      rw [← Nat.cast_lt (α := ℚ), Nat.cast_mul, hmantissa, Nat.cast_mul (2 * n + 1)]
      push_cast
      push_cast at hstep
      linarith [mul_lt_mul_of_pos_right hbelow hstep]
    have hkept := le_midpoint_of_fit? hfit ht hts hn hle' hlt' hcounted
    rw [← Nat.cast_le (α := ℚ), Nat.cast_mul, hmagnitude, Nat.cast_mul (2 * n + 1)] at hkept
    apply le_of_mul_le_mul_right _ hstep
    push_cast at hkept ⊢
    linarith
  · intro habove
    have hcounted : (2 * n + 1) * 10 ^ (a.scale + b.scale - t) < 2 * (a.mantissa * b.mantissa) := by
      rw [← Nat.cast_lt (α := ℚ), Nat.cast_mul, Nat.cast_mul 2, hmantissa]
      push_cast
      push_cast at hstep
      linarith [mul_lt_mul_of_pos_right habove hstep]
    have hkept := midpoint_le_of_fit? hfit ht hts hn hle' hlt' hcounted
    rw [← Nat.cast_le (α := ℚ), Nat.cast_mul, Nat.cast_mul 2, hmagnitude] at hkept
    apply le_of_mul_le_mul_right _ hstep
    push_cast at hkept ⊢
    linarith

theorem value_mul?_of_lt_one (hlt : a.value * b.value < 1) (hlong : 28 ≤ a.scale + b.scale) :
    r.value * 10 ^ 28 =
      divHalfEven (a.mantissa * b.mantissa) (10 ^ (a.scale + b.scale - 28)) := by
  have hmantissa := mantissa_mul_eq ha hb
  have hmagnitude := magnitudeAt_mul? ha hb hroom h
  have hfit := h
  rw [mul?_eq_fit? ha hb hroom] at hfit
  have hsplit : 10 ^ (a.scale + b.scale) = 10 ^ 28 * 10 ^ (a.scale + b.scale - 28) := by
    rw [← Nat.pow_add, Nat.add_sub_cancel' hlong]
  have hpos : 0 < 10 ^ (a.scale + b.scale - 28) := Nat.pow_pos (by decide)
  have hdigits : a.mantissa * b.mantissa < 10 ^ 28 * 10 ^ (a.scale + b.scale - 28) := by
    rw [← hsplit, ← Nat.cast_lt (α := ℚ), hmantissa]
    push_cast
    exact mul_lt_of_lt_one_left (by positivity) hlt
  have hsurplus := surplus_eq_of_lt (Nat.lt_trans hdigits (Nat.mul_lt_mul_of_pos_right (by decide) hpos))
  have hrounded := divHalfEven_le hpos (Nat.le_of_lt hdigits)
  rcases magnitudeAt_of_fit? hfit with ⟨_hsmall, hmag⟩ | ⟨hfull, _hmag⟩
  · rw [hsurplus] at hmag
    rw [hmag, Nat.cast_mul] at hmagnitude
    have hscale : (10 : ℚ) ^ (a.scale + b.scale) =
        10 ^ 28 * ((10 ^ (a.scale + b.scale - 28) : Nat) : ℚ) := by
      exact_mod_cast hsplit
    rw [hscale, ← mul_assoc] at hmagnitude
    exact (mul_right_cancel₀ (by positivity) hmagnitude).symm
  · rw [hsurplus] at hfull
    omega

theorem le_value_mul?_iff_of_even {n : Nat} (heven : n % 2 = 0) (hn : n ≤ 10 ^ 28) :
    n ≤ r.value * 10 ^ 28 <-> n - 1 / 2 ≤ a.value * b.value * 10 ^ 28 := by
  have hcast : (n : ℚ) ≤ 10 ^ 28 := by exact_mod_cast hn
  rcases lt_or_ge (a.value * b.value) 1 with hlt | hone
  · have hmantissa := mantissa_mul_eq ha hb
    rcases Nat.lt_or_ge (a.scale + b.scale) 28 with hshort | hlong
    · -- All digits of the product have room, and it is a whole number of the smallest steps.
      have hdigits : a.mantissa * b.mantissa < 2 ^ 96 := by
        have hfewer : (10 : ℚ) ^ (a.scale + b.scale) ≤ 10 ^ 28 :=
          pow_le_pow_right₀ (by norm_num) (Nat.le_of_lt hshort)
        rw [← Nat.cast_lt (α := ℚ), hmantissa]
        push_cast
        linarith [mul_lt_of_lt_one_left (by positivity : (0 : ℚ) < 10 ^ (a.scale + b.scale)) hlt]
      have hexact := value_mul?_of_places ha hb hroom h (Nat.le_of_lt hshort) hdigits hmantissa.symm
      rw [← hexact]
      exact natCast_le_value_mul_iff
    · have hpos : 0 < 10 ^ (a.scale + b.scale - 28) := Nat.pow_pos (by decide)
      have hpow : (10 : ℚ) ^ (a.scale + b.scale) =
          10 ^ 28 * ((10 ^ (a.scale + b.scale - 28) : Nat) : ℚ) := by
        rw [Nat.cast_pow, Nat.cast_ofNat, ← pow_add, Nat.add_sub_cancel' hlong]
      rw [value_mul?_of_lt_one ha hb hroom h hlt hlong, Nat.cast_le,
        le_divHalfEven_iff_of_even hpos heven, ← Nat.cast_le (α := ℚ), Nat.cast_add,
        Nat.cast_mul 2 (a.mantissa * b.mantissa), hmantissa, hpow, Nat.cast_mul, Nat.cast_mul n]
      have hstep : (0 : ℚ) < ((10 ^ (a.scale + b.scale - 28) : Nat) : ℚ) := by exact_mod_cast hpos
      generalize ((10 ^ (a.scale + b.scale - 28) : Nat) : ℚ) = step at hstep ⊢
      push_cast
      constructor
      · intro hle
        apply le_of_mul_le_mul_right _ hstep
        linarith
      · intro hhalf
        linarith [mul_le_mul_of_nonneg_right hhalf (le_of_lt hstep)]
  · have hvalue : (⟨false, 1, 0, by decide, by decide⟩ : Decimal).value = 1 := by
      norm_num [value, coefficient]
    have hreached := le_mul? ha hb hroom h (hvalue.trans_le hone)
    rw [hvalue] at hreached
    constructor
    · intro _hle
      linarith
    · intro _hhalf
      linarith

end Products

/-!
## Rounding what has been fitted
-/

def RaisedToMidpoint (places : Nat) (x y : ℚ) : Prop :=
  IsMidpoint places y ∧ x < y

def LoweredFromMidpoint (places : Nat) (x y : ℚ) : Prop :=
  IsMidpoint places x ∧ y < x

theorem eq_middle_of_isMidpoint {places n : Nat} {x : ℚ} (h : IsMidpoint places x)
    (hle : n ≤ x * 10 ^ places) (hle' : x * 10 ^ places ≤ n + 1) :
    x * 10 ^ places = n + 1 / 2 := by
  rcases h with ⟨k, hk⟩
  have hlower : (n : ℤ) < k + 1 := by
    rw [← Int.cast_lt (R := ℚ)]
    push_cast
    linarith
  have hupper : k < (n : ℤ) + 1 := by
    rw [← Int.cast_lt (R := ℚ)]
    push_cast
    linarith
  have hsame : k = n := by omega
  rw [hk, hsame, Int.cast_natCast]

section Rounded

variable {places n : Nat} {x y : ℚ} (h : FittedBetween n (x * 10 ^ places) (y * 10 ^ places))
  (hle : n ≤ x * 10 ^ places) (hlt : x * 10 ^ places < n + 1)

include h hle hlt

omit hlt in
theorem roundAway_of_raised (hraised : RaisedToMidpoint places x y) :
    roundAway places y = roundAway places x + 1 / 10 ^ places := by
  rcases hraised with ⟨hmid, hxy⟩
  have hpow : (0 : ℚ) < 10 ^ places := by positivity
  have hy := eq_middle_of_isMidpoint hmid h.lower h.upper
  have hx : x * 10 ^ places < n + 1 / 2 := by
    rw [← hy]
    exact mul_lt_mul_of_pos_right hxy hpow
  rw [roundAway_eq_upper (le_of_eq hy.symm) h.upper, roundAway_eq_lower hle hx, add_div]

theorem roundAway_of_lowered (hlowered : LoweredFromMidpoint places x y) :
    roundAway places y = roundAway places x - 1 / 10 ^ places := by
  rcases hlowered with ⟨hmid, hyx⟩
  have hpow : (0 : ℚ) < 10 ^ places := by positivity
  have hx := eq_middle_of_isMidpoint hmid hle (le_of_lt hlt)
  have hy : y * 10 ^ places < n + 1 / 2 := by
    rw [← hx]
    exact mul_lt_mul_of_pos_right hyx hpow
  rw [roundAway_eq_upper (le_of_eq hx.symm) (le_of_lt hlt), roundAway_eq_lower h.lower hy, add_div,
    add_sub_cancel_right]

/-- Apart from these two cases fitting does not matter to the rounding that follows. -/
theorem roundAway_of_fitted (hraised : ¬ RaisedToMidpoint places x y)
    (hlowered : ¬ LoweredFromMidpoint places x y) : roundAway places y = roundAway places x := by
  have hpow : (0 : ℚ) < 10 ^ places := by positivity
  rcases lt_or_ge (x * 10 ^ places) (n + 1 / 2) with hx | hx
  · have hy : y * 10 ^ places < n + 1 / 2 := by
      apply lt_of_le_of_ne (h.below hx)
      intro hmid
      apply hraised
      refine ⟨⟨n, hmid⟩, ?_⟩
      rw [← hmid] at hx
      exact lt_of_mul_lt_mul_right hx (le_of_lt hpow)
    rw [roundAway_eq_lower h.lower hy, roundAway_eq_lower hle hx]
  · have hy : n + 1 / 2 ≤ y * 10 ^ places := by
      rcases lt_or_eq_of_le hx with habove | hmid
      · exact h.above habove
      · by_contra hbelow
        apply hlowered
        refine ⟨⟨n, hmid.symm⟩, ?_⟩
        rw [not_le, hmid] at hbelow
        exact lt_of_mul_lt_mul_right hbelow (le_of_lt hpow)
    rw [roundAway_eq_upper hy h.upper, roundAway_eq_upper hx (le_of_lt hlt)]

end Rounded

/-- What rounding makes of the number `y` that `x` has been fitted to, compared with what it
makes of `x`. -/
structure RoundedTwice (places : Nat) (x y : ℚ) : Prop where
  once : ¬ RaisedToMidpoint places x y -> ¬ LoweredFromMidpoint places x y ->
    roundAway places y = roundAway places x
  raised : RaisedToMidpoint places x y -> roundAway places y = roundAway places x + 1 / 10 ^ places
  lowered : LoweredFromMidpoint places x y ->
    roundAway places y = roundAway places x - 1 / 10 ^ places

namespace RoundedTwice

variable {places : Nat} {x y : ℚ}

theorem of_eq (h : y = x) : RoundedTwice places x y where
  once _ _ := by rw [h]
  raised hraised := absurd hraised.right (by rw [h]; exact lt_irrefl x)
  lowered hlowered := absurd hlowered.right (by rw [h]; exact lt_irrefl x)

theorem of_fittedBetween {n : Nat}
    (h : FittedBetween n (x * 10 ^ places) (y * 10 ^ places)) (hle : n ≤ x * 10 ^ places)
    (hlt : x * 10 ^ places < n + 1) : RoundedTwice places x y where
  once := roundAway_of_fitted h hle hlt
  raised := roundAway_of_raised h hle
  lowered := roundAway_of_lowered h hle hlt

/-- Two roundings agree with one exactly when the first has not met a midpoint. -/
theorem roundAway_eq_iff (h : RoundedTwice places x y) :
    roundAway places y = roundAway places x <->
      ¬ RaisedToMidpoint places x y ∧ ¬ LoweredFromMidpoint places x y := by
  have hpow : (0 : ℚ) < 1 / 10 ^ places := by positivity
  constructor
  · intro hsame
    constructor
    · intro hraised
      linarith [h.raised hraised]
    · intro hlowered
      linarith [h.lowered hlowered]
  · intro hneither
    exact h.once hneither.left hneither.right

end RoundedTwice

section Products

variable {a b r : Decimal} (ha : 0 < a.value) (hb : 0 < b.value)
  (hroom : a.scale + b.scale ≤ 47) (h : mul? a b = some r)

include ha hb hroom h

theorem roundedTwice_of_mul? {places : Nat} (hplaces : places < 28)
    (hlt : a.value * b.value * 10 ^ places < 2 ^ 96 - 1) :
    RoundedTwice places (a.value * b.value) r.value := by
  have hnonneg : 0 ≤ a.value * b.value * 10 ^ places := by positivity
  have hle : (⌊a.value * b.value * 10 ^ places⌋₊ : ℚ) ≤ a.value * b.value * 10 ^ places :=
    Nat.floor_le hnonneg
  have hfits : ⌊a.value * b.value * 10 ^ places⌋₊ + 1 < 2 ^ 96 := by
    rw [← Nat.cast_lt (α := ℚ)]
    push_cast
    linarith
  rcases Nat.lt_or_ge places (a.scale + b.scale) with hlong | hshort
  · have hsucc := Nat.lt_floor_add_one (a.value * b.value * 10 ^ places)
    exact .of_fittedBetween (fittedBetween_of_mul? ha hb hroom h hplaces hlong hfits hle hsucc) hle
      hsucc
  · -- The place is behind the last digit of the product, which is a decimal then.
    have hdigits : a.mantissa * b.mantissa < 2 ^ 96 := by
      rw [← Nat.cast_lt (α := ℚ), mantissa_mul_eq ha hb]
      have hfewer : a.value * b.value * 10 ^ (a.scale + b.scale) ≤
          a.value * b.value * 10 ^ places :=
        mul_le_mul_of_nonneg_left (pow_le_pow_right₀ (by norm_num) hshort)
          (le_of_lt (mul_pos ha hb))
      push_cast
      linarith
    rcases mul?_exact hdigits (by omega) with ⟨r', hr', _hscale, hvalue⟩
    rw [h] at hr'
    cases hr'
    exact .of_eq hvalue

end Products

end Decimal

end CurrencyWallet
