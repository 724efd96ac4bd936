import CurrencyWallet.Proofs.Amount
import CurrencyWallet.Service.Desk

/-!
# Amounts and balances are rounded

What rounding gives is told by distances alone: it is the nearest of all numbers with so many
fractional digits, and of two that are equally near it is the one that is farther from zero. There
is exactly one such number, whatever the sign and the size of what is rounded. Rounding amounts and
rounding balances are two cases of this.
-/

namespace CurrencyWallet

/-!
## The nearest number
-/

/-- A number with so many fractional digits. No other is nearer, and none that is as near is
farther from zero. -/
structure IsNearestAway (places : Nat) (x y : ℚ) : Prop where
  whole : exists n : ℤ, y = n / 10 ^ places
  nearest : forall n : ℤ, |y - x| ≤ |n / 10 ^ places - x|
  away : forall n : ℤ, |n / 10 ^ places - x| = |y - x| -> |(n : ℚ) / 10 ^ places| ≤ |y|

namespace IsNearestAway

variable {places : Nat} {x y y' : ℚ}

theorem neg (h : IsNearestAway places x y) : IsNearestAway places (-x) (-y) := by
  have hmirror : forall n : ℤ, |n / 10 ^ places - -x| = |((-n : ℤ) : ℚ) / 10 ^ places - x| := by
    intro n
    rw [← abs_neg]
    congr 1
    push_cast
    ring
  have hdistance : |-y - -x| = |y - x| := by
    rw [← abs_neg]
    congr 1
    ring
  constructor
  · rcases h.whole with ⟨n, hn⟩
    refine ⟨-n, ?_⟩
    rw [hn]
    push_cast
    ring
  · intro n
    rw [hdistance, hmirror]
    exact h.nearest (-n)
  · intro n htie
    rw [hdistance, hmirror] at htie
    have haway := h.away (-n) htie
    push_cast at haway
    rwa [neg_div, abs_neg, ← abs_neg y] at haway

/-- There is no second one. It would be the opposite of the first, and of two opposites that are
equally near to a number either both are zero or the number is. -/
theorem unique (h : IsNearestAway places x y) (h' : IsNearestAway places x y') : y = y' := by
  rcases h.whole with ⟨n, hn⟩
  rcases h'.whole with ⟨n', hn'⟩
  have hnearest := h.nearest n'
  have hnearest' := h'.nearest n
  have haway := h.away n'
  have haway' := h'.away n
  rw [← hn] at hnearest' haway'
  rw [← hn'] at hnearest haway
  have hdistance := le_antisymm hnearest hnearest'
  rcases abs_eq_abs.mp (le_antisymm (haway' hdistance) (haway hdistance.symm)) with
    hsame | hopposite
  · exact hsame
  · rw [hopposite] at hdistance
    rcases abs_eq_abs.mp hdistance with hboth | hzero
    · linarith
    · have hx : x = 0 := by linarith
      have hnone := h.nearest 0
      rw [hx, Int.cast_zero, zero_div, sub_zero, sub_zero, abs_zero, abs_nonpos_iff] at hnone
      linarith

end IsNearestAway

section Floor

variable {x : ℚ} {n : ℤ}

theorem neg_half_lt_floor_sub (x : ℚ) : -(1 / 2) < (⌊x + 1 / 2⌋ : ℚ) - x := by
  linarith [Int.lt_floor_add_one (x + 1 / 2)]

theorem floor_sub_le_half (x : ℚ) : (⌊x + 1 / 2⌋ : ℚ) - x ≤ 1 / 2 := by
  linarith [Int.floor_le (x + 1 / 2)]

theorem abs_floor_sub_le (x : ℚ) (n : ℤ) : |(⌊x + 1 / 2⌋ : ℚ) - x| ≤ |n - x| := by
  have hhalf : |(⌊x + 1 / 2⌋ : ℚ) - x| ≤ 1 / 2 :=
    abs_le.mpr ⟨le_of_lt (neg_half_lt_floor_sub x), floor_sub_le_half x⟩
  by_cases hn : n = ⌊x + 1 / 2⌋
  · rw [hn]
  · -- Two whole numbers are at least one apart, so the other one is at least a half away.
    have hapart : (1 : ℚ) ≤ |(⌊x + 1 / 2⌋ : ℚ) - n| := by
      exact_mod_cast Int.one_le_abs (sub_ne_zero.mpr (Ne.symm hn))
    have htriangle := abs_sub_le (⌊x + 1 / 2⌋ : ℚ) x n
    rw [abs_sub_comm x] at htriangle
    linarith

/-- A whole number that is as near lies on the other side, which is the lower one. -/
theorem abs_le_floor_of_tie (hx : 0 ≤ x) (h : |(n : ℚ) - x| = |(⌊x + 1 / 2⌋ : ℚ) - x|) :
    |(n : ℚ)| ≤ |(⌊x + 1 / 2⌋ : ℚ)| := by
  have hbelow := neg_half_lt_floor_sub x
  rcases abs_eq_abs.mp h with hsame | hopposite
  · rw [sub_left_injective hsame]
  · have hlt : (n : ℚ) < ⌊x + 1 / 2⌋ + 1 := by linarith
    have hle : (n : ℚ) ≤ ⌊x + 1 / 2⌋ := by
      exact_mod_cast Int.lt_add_one_iff.mp (by exact_mod_cast hlt)
    exact abs_le_abs hle (by linarith)

end Floor

theorem abs_div_pow_sub (places : Nat) (x y : ℚ) :
    |y / 10 ^ places - x| = |y - x * 10 ^ places| / 10 ^ places := by
  have hpow : (0 : ℚ) < 10 ^ places := by positivity
  rw [← abs_of_pos hpow, ← abs_div, abs_of_pos hpow, sub_div,
    mul_div_cancel_right₀ _ (ne_of_gt hpow)]

theorem isNearestAway_roundAway (places : Nat) (x : ℚ) :
    IsNearestAway places x (roundAway places x) := by
  have hpow : (0 : ℚ) < 10 ^ places := by positivity
  have hnonneg : forall {z : ℚ}, 0 ≤ z -> IsNearestAway places z (roundAway places z) := by
    intro z hz
    rw [roundAway_of_nonneg hz]
    constructor
    · exact ⟨_, rfl⟩
    · intro n
      rw [abs_div_pow_sub, abs_div_pow_sub, div_le_div_iff_of_pos_right hpow]
      exact abs_floor_sub_le _ n
    · intro n htie
      rw [abs_div_pow_sub, abs_div_pow_sub, div_left_inj' (ne_of_gt hpow)] at htie
      rw [abs_div, abs_div, div_le_div_iff_of_pos_right (abs_pos_of_pos hpow)]
      exact abs_le_floor_of_tie (mul_nonneg hz (le_of_lt hpow)) htie
  rcases le_total 0 x with hx | hx
  · exact hnonneg hx
  · have hmirrored := (hnonneg (neg_nonneg.mpr hx)).neg
    rwa [roundAway_neg, neg_neg, neg_neg] at hmirrored

theorem isNearestAway_iff {places : Nat} {x y : ℚ} :
    IsNearestAway places x y <-> y = roundAway places x := by
  constructor
  · intro h
    exact h.unique (isNearestAway_roundAway places x)
  · intro h
    rw [h]
    exact isNearestAway_roundAway places x

/-!
## Decimals
-/

/-- Decimals are rounded to so many fractional digits, to the nearest and a half away from zero.
What has no more digits is left as it is, so to round once more changes nothing, and rounding keeps
opposites and the order. -/
structure RoundsTo (places : Nat) (f : Decimal -> Decimal) : Prop where
  nearest : forall d y, IsNearestAway places d.value y <-> y = (f d).value
  scale_le : forall d, (f d).scale ≤ places
  fixed : forall d, d.scale ≤ places -> f d = d
  idempotent : forall d, f (f d) = f d
  odd : forall d, (f d.negate).value = -(f d).value ∧ (f d.negate).scale = (f d).scale
  mono : forall d d', d ≤ d' -> f d ≤ f d'

namespace Decimal

theorem scale_round (d : Decimal) (places : Nat) : (d.round places).scale = min d.scale places := by
  rcases Nat.lt_or_ge places d.scale with hlt | hge
  · rw [(round_of_lt_scale hlt).left, Nat.min_eq_right (Nat.le_of_lt hlt)]
  · rw [round_of_scale_le hge, Nat.min_eq_left hge]

theorem round_round (d : Decimal) (places : Nat) : (d.round places).round places = d.round places :=
  round_of_scale_le (scale_round_le d places)

theorem value_round_negate (d : Decimal) (places : Nat) :
    (d.negate.round places).value = -(d.round places).value := by
  rw [value_round, value_round, value_negate, roundAway_neg]

theorem roundsTo_round (places : Nat) : RoundsTo places (fun d => d.round places) where
  nearest d y := by rw [isNearestAway_iff, value_round]
  scale_le d := scale_round_le d places
  fixed d h := round_of_scale_le h
  idempotent d := round_round d places
  odd d := by
    refine ⟨value_round_negate d places, ?_⟩
    rw [scale_round, scale_round]
    rfl
  mono d d' h := value_le_value_iff.mp (round_mono places (value_le_value_iff.mpr h))

end Decimal

/-- Amounts are rounded to two fractional digits and balances to ten. An amount that has been taken
from a client is not changed any more, and an exchange comes to the same whether its amount has
been rounded before or not. -/
theorem amounts_and_balances_rounded :
    RoundsTo 2 Decimal.roundAmount ∧ RoundsTo 10 Decimal.roundBalance ∧
      (forall x, (Decimal.ofClient x).map Decimal.roundAmount = Decimal.ofClient x) ∧
      forall amount rate,
        Conversion.compute amount.roundAmount rate = Conversion.compute amount rate := by
  refine ⟨Decimal.roundsTo_round 2, Decimal.roundsTo_round 10, ?_, ?_⟩
  · intro x
    cases hx : Decimal.ofClient x with
    | error e => rfl
    | ok d =>
        exact congrArg Except.ok (Decimal.round_of_scale_le (Decimal.scale_le_of_ofClient hx))
  · intro amount rate
    have hsame : amount.roundAmount.roundAmount = amount.roundAmount :=
      Decimal.round_round amount Decimal.amountPlaces
    rw [Conversion.compute, hsame, Conversion.compute]

/-- A debt in the middle of two cents grows, and its digits carry. -/
example :
    Decimal.roundAmount ⟨true, 9995, 3, by decide, by decide⟩ =
      ⟨true, 1000, 2, by decide, by decide⟩ := by
  decide

end CurrencyWallet
