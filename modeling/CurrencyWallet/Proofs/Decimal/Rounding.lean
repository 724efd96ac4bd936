import CurrencyWallet.Proofs.Decimal.Arithmetic
import Mathlib.Algebra.Order.Floor.Ring
import Mathlib.Data.Rat.Floor

/-!
# Rounding half away from zero

`roundAway` rounds a rational number to a number of fractional digits. Rounding a decimal is
rounding its value, whatever its sign and its digits.
-/

namespace CurrencyWallet

/-- The multiple of `10 ^ -places` that is nearest to a number. Half way between two of them it
is the one that is farther from zero. -/
def roundAway (places : Nat) (x : ℚ) : ℚ :=
  if 0 ≤ x then ⌊x * 10 ^ places + 1 / 2⌋ / 10 ^ places
  else -(⌊-x * 10 ^ places + 1 / 2⌋ / 10 ^ places)

section RoundAway

variable {places : Nat} {x : ℚ}

theorem roundAway_of_nonneg (h : 0 ≤ x) :
    roundAway places x = ⌊x * 10 ^ places + 1 / 2⌋ / 10 ^ places := by
  rw [roundAway, if_pos h]

@[simp] theorem roundAway_zero : roundAway places 0 = 0 := by
  have hhalf : ⌊(1 / 2 : ℚ)⌋ = 0 := by
    rw [Int.floor_eq_zero_iff]
    constructor <;> norm_num
  rw [roundAway_of_nonneg le_rfl, zero_mul, zero_add, hhalf, Int.cast_zero, zero_div]

theorem roundAway_neg : roundAway places (-x) = -roundAway places x := by
  unfold roundAway
  rcases lt_trichotomy x 0 with hneg | hzero | hpos
  · rw [if_pos (by linarith), if_neg (not_le.mpr hneg), neg_neg]
  · rw [hzero, neg_zero, if_pos le_rfl, ← roundAway_of_nonneg le_rfl, roundAway_zero,
      if_pos le_rfl, neg_zero]
  · rw [if_neg (by linarith), if_pos (le_of_lt hpos), neg_neg]

theorem floor_add_half (n : ℤ) : ⌊(n : ℚ) + 1 / 2⌋ = n := by
  rw [Int.floor_eq_iff]
  constructor <;> linarith

theorem roundAway_of_whole {n : ℤ} (h : x * 10 ^ places = n) : roundAway places x = x := by
  have hpow : (10 : ℚ) ^ places ≠ 0 := by positivity
  have hnonneg : forall {y : ℚ} {k : ℤ}, 0 ≤ y -> y * 10 ^ places = k -> roundAway places y = y := by
    intro y k hy hk
    rw [roundAway_of_nonneg hy, hk, floor_add_half, ← hk, mul_div_cancel_right₀ _ hpow]
  rcases le_or_gt 0 x with hx | hx
  · exact hnonneg hx h
  · have hopposite : -x * 10 ^ places = (-n : ℤ) := by
      rw [neg_mul, h]
      push_cast
      rfl
    have hfixed := hnonneg (by linarith) hopposite
    rw [roundAway_neg] at hfixed
    exact neg_injective hfixed

theorem roundAway_nonneg (h : 0 ≤ x) : 0 ≤ roundAway places x := by
  rw [roundAway_of_nonneg h]
  have hfloor : 0 ≤ ⌊x * 10 ^ places + 1 / 2⌋ := Int.floor_nonneg.mpr (by positivity)
  positivity

theorem roundAway_mono {y : ℚ} (h : x ≤ y) : roundAway places x ≤ roundAway places y := by
  have hnonneg : forall {u v : ℚ}, 0 ≤ u -> u ≤ v -> roundAway places u ≤ roundAway places v := by
    intro u v hu huv
    rw [roundAway_of_nonneg hu, roundAway_of_nonneg (le_trans hu huv)]
    apply div_le_div_of_nonneg_right _ (by positivity)
    apply Int.cast_le.mpr
    apply Int.floor_le_floor
    linarith [mul_le_mul_of_nonneg_right huv (by positivity : (0 : ℚ) ≤ 10 ^ places)]
  rcases le_total 0 x with hx | hx
  · exact hnonneg hx h
  · rcases le_total 0 y with hy | hy
    · have hopposite : 0 ≤ roundAway places (-x) := roundAway_nonneg (neg_nonneg.mpr hx)
      have hy' : 0 ≤ roundAway places y := roundAway_nonneg hy
      rw [roundAway_neg] at hopposite
      linarith
    · have hmirrored := hnonneg (neg_nonneg.mpr hy) (neg_le_neg h)
      rw [roundAway_neg, roundAway_neg] at hmirrored
      exact neg_le_neg_iff.mp hmirrored

theorem roundAway_intCast (n : ℤ) : roundAway places (n : ℚ) = n :=
  roundAway_of_whole (n := n * 10 ^ places) (by push_cast; rfl)

theorem abs_roundAway_le {n : ℤ} (h : |x| ≤ n) : |roundAway places x| ≤ n := by
  rw [abs_le] at h ⊢
  constructor
  · have hlower : roundAway places (-n) ≤ roundAway places x := roundAway_mono h.left
    rwa [roundAway_neg, roundAway_intCast] at hlower
  · have hupper : roundAway places x ≤ roundAway places n := roundAway_mono h.right
    rwa [roundAway_intCast] at hupper

theorem roundAway_pos_iff : 0 < roundAway places x <-> 1 / 2 ≤ x * 10 ^ places := by
  have hpow : (0 : ℚ) < 10 ^ places := by positivity
  rcases le_or_gt 0 x with hx | hx
  · rw [roundAway_of_nonneg hx, div_pos_iff_of_pos_right hpow, Int.cast_pos, Int.floor_pos]
    constructor
    · intro h
      linarith
    · intro h
      linarith
  · have hopposite : 0 ≤ roundAway places (-x) := roundAway_nonneg (by linarith)
    rw [roundAway_neg] at hopposite
    constructor
    · intro h
      linarith
    · intro h
      linarith [mul_neg_of_neg_of_pos hx hpow]

/-- A number that is less than half a step away from a neighbour is rounded to it. -/
theorem roundAway_of_near {n : ℤ} (h : |x * 10 ^ places - n| < 1 / 2) :
    roundAway places x = n / 10 ^ places := by
  have hnonneg : forall {y : ℚ} {k : ℤ}, 0 ≤ y -> |y * 10 ^ places - k| < 1 / 2 ->
      roundAway places y = k / 10 ^ places := by
    intro y k hy hk
    have hfloor : ⌊y * 10 ^ places + 1 / 2⌋ = k := by
      rw [abs_lt] at hk
      rw [Int.floor_eq_iff]
      constructor <;> linarith
    rw [roundAway_of_nonneg hy, hfloor]
  rcases le_or_gt 0 x with hx | hx
  · exact hnonneg hx h
  · have hopposite : |-x * 10 ^ places - (-n : ℤ)| < 1 / 2 := by
      rw [← abs_neg] at h
      push_cast
      rwa [neg_mul, sub_neg_eq_add, neg_add_eq_sub, ← neg_sub]
    have hmirrored := hnonneg (by linarith) hopposite
    rw [roundAway_neg] at hmirrored
    push_cast at hmirrored
    rw [neg_div] at hmirrored
    exact neg_injective hmirrored

/-!
### Between two neighbours
-/

def IsMidpoint (places : Nat) (x : ℚ) : Prop :=
  exists n : ℤ, x * 10 ^ places = n + 1 / 2

variable {n : Nat}

theorem roundAway_eq_lower (hle : n ≤ x * 10 ^ places) (hlt : x * 10 ^ places < n + 1 / 2) :
    roundAway places x = n / 10 ^ places := by
  have hpow : (0 : ℚ) < 10 ^ places := by positivity
  have hx : 0 ≤ x := nonneg_of_mul_nonneg_left (le_trans (Nat.cast_nonneg n) hle) hpow
  have hfloor : ⌊x * 10 ^ places + 1 / 2⌋ = (n : ℤ) := by
    rw [Int.floor_eq_iff]
    push_cast
    constructor <;> linarith
  rw [roundAway_of_nonneg hx, hfloor, Int.cast_natCast]

theorem roundAway_eq_upper (hle : n + 1 / 2 ≤ x * 10 ^ places) (hlt : x * 10 ^ places ≤ n + 1) :
    roundAway places x = (n + 1) / 10 ^ places := by
  have hpow : (0 : ℚ) < 10 ^ places := by positivity
  have hbelow : (0 : ℚ) ≤ n + 1 / 2 := by positivity
  have hx : 0 ≤ x := nonneg_of_mul_nonneg_left (le_trans hbelow hle) hpow
  have hfloor : ⌊x * 10 ^ places + 1 / 2⌋ = (n + 1 : ℤ) := by
    rw [Int.floor_eq_iff]
    push_cast
    constructor <;> linarith
  rw [roundAway_of_nonneg hx, hfloor]
  push_cast
  rfl

end RoundAway

/-!
## Rounding decimals
-/

theorem floor_div_add_half {n d : Nat} (hd : 0 < d) :
    ⌊(n : ℚ) / d + 1 / 2⌋ = divHalfUp n d := by
  have hne : (d : ℚ) ≠ 0 := by positivity
  have hsum : (n : ℚ) / d + 1 / 2 = ((2 * n + d : Nat) : ℚ) / ((2 * d : Nat) : ℚ) := by
    push_cast
    field_simp
  rw [hsum, Rat.floor_natCast_div_natCast, divHalfUp]
  norm_cast

namespace Decimal

theorem roundAway_digits {m s places : Nat} (h : places ≤ s) :
    roundAway places ((m : ℚ) / 10 ^ s) = divHalfUp m (10 ^ (s - places)) / 10 ^ places := by
  have hpow : (10 : ℚ) ^ s = 10 ^ (s - places) * 10 ^ places := by
    rw [← pow_add, Nat.sub_add_cancel h]
  have hshift : (m : ℚ) / 10 ^ s * 10 ^ places = m / ((10 ^ (s - places) : Nat) : ℚ) := by
    rw [hpow]
    push_cast
    field_simp
  rw [roundAway_of_nonneg (by positivity), hshift, floor_div_add_half (Nat.pow_pos (by decide))]
  push_cast
  rfl

theorem value_round (d : Decimal) (places : Nat) :
    (d.round places).value = roundAway places d.value := by
  rcases Nat.lt_or_ge places d.scale with hlt | hge
  · rcases round_of_lt_scale hlt with ⟨hscale, hcoefficient⟩
    have hdigits := roundAway_digits (m := d.mantissa) (Nat.le_of_lt hlt)
    rw [value, hscale, hcoefficient, value, coefficient]
    cases d.negative with
    | false =>
        push_cast
        exact hdigits.symm
    | true =>
        rw [if_pos rfl, if_pos rfl]
        push_cast
        rw [neg_div, neg_div, roundAway_neg, hdigits]
  · have hwhole := coefficientAt_eq_value_mul hge
    rw [round_of_scale_le hge, roundAway_of_whole hwhole.symm]

theorem round_mono {a b : Decimal} (places : Nat) (h : a.value ≤ b.value) :
    (a.round places).value ≤ (b.round places).value := by
  rw [value_round, value_round]
  exact roundAway_mono h

end Decimal

end CurrencyWallet
