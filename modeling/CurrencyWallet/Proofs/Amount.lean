import CurrencyWallet.Proofs.Decimal.Balance
import CurrencyWallet.Proofs.Decimal.OfBinary64
import CurrencyWallet.Proofs.Decimal.Rounding

/-!
# Amounts that clients send

A client sends an amount as a binary number, which is rarely the amount that is meant. Up to
`10 ^ 12` the amount in cents is recovered from it, exactly. What is too large for a balance stays
so as long as there is a decimal for it.
-/

namespace CurrencyWallet

namespace Decimal

section OfClient

variable {x : Binary64}

theorem ofClient_eq_ok_iff {d : Decimal} :
    ofClient x = .ok d <-> exists exact, ofBinary64? x = some exact ∧ exact.roundAmount = d := by
  rw [ofClient]
  cases ofBinary64? x with
  | none => simp
  | some exact => simp

theorem ofClient_eq_error_iff {e : CurrencyError} :
    ofClient x = .error e <-> e = .notFinite ∧ (¬ x.IsFinite ∨ 2 ^ 96 ≤ |x.value|) := by
  rw [← ofBinary64?_eq_none_iff, ofClient]
  cases ofBinary64? x with
  | none => simp [eq_comm]
  | some exact => simp

theorem scale_le_of_ofClient {d : Decimal} (h : ofClient x = .ok d) : d.scale ≤ amountPlaces := by
  rcases ofClient_eq_ok_iff.mp h with ⟨exact, _, hround⟩
  rw [← hround]
  exact scale_round_le exact amountPlaces

/-!
## The range
-/

theorem inBalanceRange_of_ofClient {d : Decimal} (h : ofClient x = .ok d) :
    d.InBalanceRange <-> |x.value| < 10 ^ 18 := by
  have hconverted : ¬ (¬ x.IsFinite ∨ 2 ^ 96 ≤ |x.value|) := by
    rw [← ofBinary64?_eq_none_iff]
    rcases ofClient_eq_ok_iff.mp h with ⟨exact, hexact, _⟩
    rw [hexact]
    exact Option.some_ne_none exact
  rw [not_or, not_not, not_le] at hconverted
  rcases ofClient_eq_ok_iff.mp h with ⟨exact, hexact, hround⟩
  rw [inBalanceRange_iff, ← hround, roundAmount, value_round]
  rcases lt_or_ge x.exponent 0 with hfraction | hwhole
  · have hsize := abs_value_lt_of_exponent_neg hfraction
    rcases ofBinary64?_of_fraction hconverted.left hfraction with ⟨d', hd', hnear⟩
    rw [Option.some.inj (hexact.symm.trans hd')]
    have hclose := hnear 0 (by decide) (.inl rfl)
    have hbound : |d'.value| ≤ (2 ^ 53 : ℤ) := by
      have htriangle := abs_sub_abs_le_abs_sub d'.value x.value
      push_cast
      linarith
    have hrounded : |roundAway amountPlaces d'.value| ≤ (2 ^ 53 : ℤ) := abs_roundAway_le hbound
    push_cast at hrounded
    constructor
    · intro _
      linarith
    · intro _
      linarith
  · rcases (ofBinary64?_of_whole hconverted.left hwhole).1 hconverted.right with ⟨d', hd', hvalue⟩
    rcases Binary64.exists_value_eq_intCast hwhole with ⟨n, hn⟩
    rw [Option.some.inj (hexact.symm.trans hd'), hvalue, hn, roundAway_intCast]

/-!
## Cents
-/

/-- Next to every number of cents there is a number of the format. -/
theorem exists_nearest_cents {c : ℤ} (hc : |c| ≤ 10 ^ 14) : exists x : Binary64,
    x.IsNearest (c / 100) ∧ |x.value - c / 100| ≤ 2 ^ (-13 : ℤ) / 2 := by
  have habs : (c.natAbs : ℚ) = |(c : ℚ)| := by
    rw [Nat.cast_natAbs, Int.cast_abs]
  have hcents : ((if decide (c < 0) then -1 else 1) * ((c.natAbs : ℚ) / (100 : ℕ))) = c / 100 := by
    rw [habs]
    rcases lt_or_ge c 0 with hneg | hpos
    · rw [if_pos (by simpa using hneg), abs_of_neg (by exact_mod_cast hneg)]
      push_cast
      ring
    · rw [if_neg (by simpa using hpos), abs_of_nonneg (by exact_mod_cast hpos), one_mul]
      push_cast
      rfl
  have hsize : (c.natAbs : ℚ) / (100 : ℕ) < 2 ^ ((-13 : ℤ) + 53) := by
    have hbound : |(c : ℚ)| ≤ 10 ^ 14 := by exact_mod_cast hc
    rw [habs]
    norm_num
    linarith
  rcases Binary64.exists_ofRatio?_near (decide (c < 0)) (by decide) (by decide) (by decide)
    hsize with ⟨x, hx, hnear⟩
  have hnearest := Binary64.isNearest_of_ofRatio? (by decide) hx
  rw [hcents] at hnear hnearest
  exact ⟨x, hnearest, hnear⟩

/-- What is left of the cents after all conversions is closer than half a cent. -/
theorem ofClient_of_nearest {c : ℤ} (hc : |c| ≤ 10 ^ 14) (hx : x.IsNearest (c / 100)) :
    exists d, ofClient x = .ok d ∧ d.value = c / 100 := by
  rcases exists_nearest_cents hc with ⟨y, hy, hynear⟩
  have hnear := (hx.nearest y hy.finite).trans hynear
  have hcents : |(c : ℚ) / 100| ≤ 10 ^ 12 := by
    have hbound : |(c : ℚ)| ≤ 10 ^ 14 := by exact_mod_cast hc
    rw [abs_div, abs_of_pos (by norm_num : (0 : ℚ) < 100)]
    linarith
  have hsize : |x.value| ≤ 10 ^ 12 + 2 ^ (-13 : ℤ) / 2 := by
    have htriangle := abs_sub_abs_le_abs_sub x.value (c / 100)
    linarith
  norm_num at hnear hsize
  rcases ofBinary64?_near hx.finite (by linarith) with ⟨exact, hexact, haccurate⟩
  -- Fifteen digits are three behind the point, one more than the cents need.
  have hdecimal := haccurate 3 (by decide) (.inr (by linarith))
  refine ⟨exact.roundAmount, ofClient_eq_ok_iff.mpr ⟨exact, hexact, rfl⟩, ?_⟩
  have hclose : |exact.value - c / 100| ≤ 2 / 10 ^ 3 + 1 / 16384 :=
    (abs_sub_le _ _ _).trans (add_le_add hdecimal hnear)
  rw [roundAmount, value_round, roundAway_of_near (n := c)]
  · norm_num [amountPlaces]
  · have hshift : exact.value * 10 ^ amountPlaces - c = (exact.value - c / 100) * 100 := by
      norm_num [amountPlaces]
      ring
    rw [hshift, abs_mul, abs_of_pos (by norm_num : (0 : ℚ) < 100)]
    linarith

/-- An amount in cents is recovered from the nearest number of the format, and no amount has more
than two fractional digits. -/
theorem ofClient_cents :
    (forall c : ℤ, |c| ≤ 10 ^ 14 ->
      (exists x : Binary64, x.IsNearest (c / 100)) ∧
      forall x : Binary64, x.IsNearest (c / 100) ->
        exists d, ofClient x = .ok d ∧ d.value = c / 100) ∧
    forall (x : Binary64) (d : Decimal), ofClient x = .ok d -> d.scale ≤ amountPlaces := by
  constructor
  · intro c hc
    rcases exists_nearest_cents hc with ⟨y, hy, _⟩
    exact ⟨⟨y, hy⟩, fun x hx => ofClient_of_nearest hc hx⟩
  · intro x d h
    exact scale_le_of_ofClient h

theorem ofClient_cents_large_debt :
    let c : ℤ := -99999999999999
    let x : Binary64 := ⟨0xc26d1a94a1ffffae⟩
    let d : Decimal := ⟨true, 99999999999999, 2, by decide, by decide⟩
    |c| ≤ 10 ^ 14 ∧ x.IsNearest (c / 100) ∧ ofClient x = .ok d ∧ d.value = c / 100 ∧
      d.scale ≤ amountPlaces := by
  intro c x d
  have hc : |c| ≤ 10 ^ 14 := by decide
  have hratio : Binary64.ofRatio? true 99999999999999 100 = some x := by decide +kernel
  have hx : x.IsNearest (c / 100) := by
    have hnearest := Binary64.isNearest_of_ofRatio? (by decide) hratio
    norm_num at hnearest
    norm_num [c]
    exact hnearest
  have hd : ofClient x = .ok d := by decide +kernel
  rcases (ofClient_cents.1 c hc).2 x hx with ⟨d', hd', hvalue⟩
  rw [hd] at hd'
  rw [← Except.ok.inj hd'] at hvalue
  exact ⟨hc, hx, hd, hvalue, ofClient_cents.2 x d hd⟩

end OfClient

end Decimal

end CurrencyWallet
