import CurrencyWallet.Proofs.Decimal.Product

/-!
# The order of products

Fitting keeps the order of numbers. At one scale the greater number loses at least as many
digits, and if it loses more there is a power of two between the two that both respect. Zeros at
the right end of a number do not matter to what it is fitted to, so numbers at two scales can be
compared at a third one, and a product of greater factors is no less.
-/

namespace CurrencyWallet

/-!
## Division with rounding
-/

theorem divHalfEven_mono {m n d : Nat} (hd : 0 < d) (h : m ≤ n) :
    divHalfEven m d ≤ divHalfEven n d := by
  have hm : m / d * d + m % d = m := Nat.div_add_mod' m d
  have hn : n / d * d + n % d = n := Nat.div_add_mod' n d
  have hrest : m % d < d := Nat.mod_lt m hd
  rcases Nat.lt_or_eq_of_le (Nat.div_le_div_right h : m / d ≤ n / d) with hless | hsame
  · have hstep : (m / d + 1) * d ≤ n / d * d := Nat.mul_le_mul_right d hless
    rw [Nat.add_mul, Nat.one_mul] at hstep
    exact Nat.le_trans (divHalfEven_le hd (by omega)) (le_divHalfEven hd (Nat.div_mul_le_self n d))
  · have hrests : m % d ≤ n % d := by
      rw [hsame] at hm
      omega
    unfold divHalfEven
    dsimp only
    rw [hsame]
    split_ifs <;> omega

theorem divHalfEven_mul_right {n d k : Nat} (hk : 0 < k) :
    divHalfEven (n * k) (d * k) = divHalfEven n d := by
  have hbelow : 2 * (n % d * k) < d * k <-> 2 * (n % d) < d := by
    rw [← Nat.mul_assoc]
    exact Nat.mul_lt_mul_right hk
  have habove : d * k < 2 * (n % d * k) <-> d < 2 * (n % d) := by
    rw [← Nat.mul_assoc]
    exact Nat.mul_lt_mul_right hk
  unfold divHalfEven
  dsimp only
  rw [Nat.mul_div_mul_right n d hk, Nat.mul_mod_mul_right,
    if_congr hbelow rfl (if_congr habove rfl rfl)]

namespace Decimal

/-!
## Numbers at one scale
-/

theorem digitsTooMany_mono {m n : Nat} (h : m ≤ n) : digitsTooMany m ≤ digitsTooMany n := by
  fun_induction digitsTooMany m generalizing n with
  | case1 m _hlt =>
      exact Nat.zero_le _
  | case2 m hge ih =>
      have hlong : digitsTooMany n = digitsTooMany (n / 10) + 1 := by
        rw [digitsTooMany, if_neg (by omega)]
      rw [hlong]
      exact Nat.succ_le_succ (ih (Nat.div_le_div_right h))

theorem surplus_mono {m n : Nat} (h : m ≤ n) (s : Nat) : surplus m s ≤ surplus n s :=
  Nat.add_le_add_left (digitsTooMany_mono (Nat.div_le_div_right h)) _

section OneScale

variable {negative : Bool} {m n s : Nat} {r r' : Decimal} (h : fit? negative m s = some r)
  (h' : fit? negative n s = some r')

include h

theorem magnitudeAt_le_carried : r.magnitudeAt s ≤ carried * 10 ^ (surplus m s + 1) := by
  rcases magnitudeAt_of_fit? h with ⟨hlt, hmag⟩ | ⟨_hfull, hmag⟩
  · rw [hmag, Nat.pow_succ', ← Nat.mul_assoc]
    apply Nat.mul_le_mul_right
    have hcarried : carried = 7922816251426433759354395034 := by decide
    omega
  · exact Nat.le_of_eq hmag

theorem carried_le_magnitudeAt {k : Nat} (hk : surplus m s = k + 1) (hlong : 2 ^ 96 * 10 ^ k ≤ m) :
    carried * 10 ^ (k + 1) ≤ r.magnitudeAt s := by
  rcases magnitudeAt_of_fit? h with ⟨_hlt, hmag⟩ | ⟨_hfull, hmag⟩
  · have hpos : 0 < 10 ^ k := Nat.pow_pos (by decide)
    have hrounded : carried ≤ divHalfEven m (10 ^ (k + 1)) := by
      rw [carried, ← divHalfEven_mul_right hpos, ← Nat.pow_succ']
      exact divHalfEven_mono (Nat.pow_pos (by decide)) hlong
    rw [hmag, hk]
    exact Nat.mul_le_mul_right _ hrounded
  · rw [hmag, hk]
    exact Nat.mul_le_mul_left _ (Nat.pow_le_pow_right (by decide) (Nat.le_succ _))

include h'

theorem magnitudeAt_mono (hle : m ≤ n) : r.magnitudeAt s ≤ r'.magnitudeAt s := by
  rcases Nat.lt_or_eq_of_le (surplus_mono hle s) with hmore | hsame
  · have hspare : s - 28 < surplus n s := Nat.lt_of_le_of_lt (Nat.le_add_right _ _) hmore
    rcases long_of_surplus hspare with ⟨k, hk, hlong⟩
    calc
      r.magnitudeAt s ≤ carried * 10 ^ (surplus m s + 1) := magnitudeAt_le_carried h
      _ ≤ carried * 10 ^ (k + 1) :=
        Nat.mul_le_mul_left _ (Nat.pow_le_pow_right (by decide) (by omega))
      _ ≤ r'.magnitudeAt s := carried_le_magnitudeAt h' hk hlong
  · have hrounded : divHalfEven m (10 ^ surplus m s) ≤ divHalfEven n (10 ^ surplus n s) := by
      rw [hsame]
      exact divHalfEven_mono (Nat.pow_pos (by decide)) hle
    rcases magnitudeAt_of_fit? h' with ⟨hlt, hmag⟩ | ⟨_hfull, hmag⟩
    · rcases magnitudeAt_of_fit? h with ⟨_hlt, hmag'⟩ | ⟨hfull, _hmag'⟩
      · rw [hmag, hmag', hsame]
        rw [hsame] at hrounded
        exact Nat.mul_le_mul_right _ hrounded
      · omega
    · rw [hmag, ← hsame]
      exact magnitudeAt_le_carried h

end OneScale

/-!
## Numbers at two scales
-/

theorem surplus_ten_mul {m s : Nat} (h : 2 ^ 96 ≤ m * 10 ∨ 28 ≤ s) :
    surplus (m * 10) (s + 1) = surplus m s + 1 := by
  unfold surplus
  rcases Nat.lt_or_ge s 28 with hroom | hfull
  · have hlong : ¬ m * 10 < 2 ^ 96 := by omega
    rw [Nat.sub_eq_zero_of_le (by omega : s + 1 ≤ 28), Nat.sub_eq_zero_of_le (Nat.le_of_lt hroom),
      Nat.pow_zero, Nat.div_one, Nat.div_one, digitsTooMany, if_neg hlong,
      Nat.mul_div_cancel _ (by decide : 0 < 10)]
    omega
  · rw [Nat.sub_add_comm hfull, Nat.pow_succ, Nat.mul_div_mul_right _ _ (by decide : 0 < 10)]
    omega

theorem fit?_of_surplus {negative : Bool} {m s k : Nat} (h : surplus m s = k) :
    fit? negative m s =
      if s < k then none
      else if divHalfEven m (10 ^ k) < 2 ^ 96 then
        ofParts? negative (divHalfEven m (10 ^ k)) (s - k)
      else if s - k = 0 then none
      else ofParts? negative (divHalfEven (divHalfEven m (10 ^ k)) 10) (s - k - 1) := by
  subst h
  rfl

/-- A zero at the right end is the first digit to be dropped. -/
theorem fit?_ten_mul (negative : Bool) {m s : Nat} (h : 2 ^ 96 ≤ m * 10 ∨ 28 ≤ s) :
    fit? negative (m * 10) (s + 1) = fit? negative m s := by
  have hless : s + 1 < surplus m s + 1 <-> s < surplus m s := Nat.add_lt_add_iff_right
  rw [fit?_of_surplus (surplus_ten_mul h), fit?_of_surplus rfl, Nat.pow_succ,
    divHalfEven_mul_right (by decide : 0 < 10), Nat.add_sub_add_right, if_congr hless rfl rfl]

section Nonnegative

variable {m n s t : Nat} {r r' : Decimal} (h : fit? false m s = some r)

include h

theorem magnitudeAt_eq_value_mul : (r.magnitudeAt s : ℚ) = r.value * 10 ^ s := by
  rw [← coefficientAt_eq_value_mul (scale_le_of_fit? h),
    coefficientAt_of_nonnegative (fit?_cases h).right.left, Int.cast_natCast]

theorem exists_fit?_ten_mul :
    exists r', fit? false (m * 10) (s + 1) = some r' ∧ r'.value = r.value := by
  by_cases hlong : 2 ^ 96 ≤ m * 10 ∨ 28 ≤ s
  · exact ⟨r, (fit?_ten_mul false hlong).trans h, rfl⟩
  · -- There is room for one digit more, and neither number is rounded.
    have hdigits : m * 10 < 2 ^ 96 := by omega
    have hscale : s + 1 ≤ 28 := by omega
    rw [fit?_of_lt false (by omega) (by omega)] at h
    rcases ofParts?_eq_some_iff.mp h with ⟨hneg, hm, hs⟩
    refine ⟨⟨false, m * 10, s + 1, hdigits, hscale⟩, ?_, ?_⟩
    · rw [fit?_of_lt false hdigits hscale]
      exact ofParts?_eq_some_iff.mpr ⟨rfl, rfl, rfl⟩
    · rw [value_eq_div_of_nonnegative rfl, value_eq_div_of_nonnegative hneg, hm, hs, pow_succ]
      push_cast
      rw [mul_div_mul_right _ _ (by norm_num)]

theorem exists_fit?_mul_pow (k : Nat) :
    exists r', fit? false (m * 10 ^ k) (s + k) = some r' ∧ r'.value = r.value := by
  induction k with
  | zero =>
      exact ⟨r, by rwa [Nat.pow_zero, Nat.mul_one], rfl⟩
  | succ k ih =>
      rcases ih with ⟨r₁, h₁, hvalue₁⟩
      rcases exists_fit?_ten_mul h₁ with ⟨r₂, h₂, hvalue₂⟩
      exact ⟨r₂, by rwa [Nat.pow_succ, ← Nat.mul_assoc], hvalue₂.trans hvalue₁⟩

/-- Fitted numbers are in the order of the numbers, whatever their scales. -/
theorem value_mono_of_fit? (h' : fit? false n t = some r') (hle : m * 10 ^ t ≤ n * 10 ^ s) :
    r.value ≤ r'.value := by
  rcases exists_fit?_mul_pow h t with ⟨r₁, h₁, hvalue₁⟩
  rcases exists_fit?_mul_pow h' s with ⟨r₂, h₂, hvalue₂⟩
  rw [Nat.add_comm] at h₂
  have hmagnitude := magnitudeAt_mono h₁ h₂ hle
  rw [← Nat.cast_le (α := ℚ), magnitudeAt_eq_value_mul h₁, magnitudeAt_eq_value_mul h₂]
    at hmagnitude
  rw [← hvalue₁, ← hvalue₂]
  exact le_of_mul_le_mul_right hmagnitude (by positivity)

end Nonnegative

/-!
## Products
-/

theorem mul?_mono {a b a' b' r' : Decimal} (ha : 0 < a.value) (hb : 0 < b.value)
    (haa : a.value ≤ a'.value) (hbb : b.value ≤ b'.value) (hroom : a.scale + b.scale ≤ 47)
    (hroom' : a'.scale + b'.scale ≤ 47) (h' : mul? a' b' = some r') :
    exists r, mul? a b = some r ∧ r.value ≤ r'.value := by
  have ha' := lt_of_lt_of_le ha haa
  have hb' := lt_of_lt_of_le hb hbb
  have hle : a.value * b.value ≤ a'.value * b'.value :=
    mul_le_mul haa hbb (le_of_lt hb) (le_of_lt ha')
  have hrange := (exists_mul?_iff ha' hb' hroom').mp ⟨r', h'⟩
  rcases (exists_mul?_iff ha hb hroom).mpr (lt_of_le_of_lt hle hrange) with ⟨r, h⟩
  refine ⟨r, h, ?_⟩
  rw [mul?_eq_fit? ha hb hroom] at h
  rw [mul?_eq_fit? ha' hb' hroom'] at h'
  apply value_mono_of_fit? h h'
  rw [← Nat.cast_le (α := ℚ), Nat.cast_mul, Nat.cast_mul (a'.mantissa * b'.mantissa),
    mantissa_mul_eq ha hb, mantissa_mul_eq ha' hb']
  push_cast
  rw [mul_right_comm (a'.value * b'.value)]
  exact mul_le_mul_of_nonneg_right (mul_le_mul_of_nonneg_right hle (by positivity)) (by positivity)

end Decimal

end CurrencyWallet
