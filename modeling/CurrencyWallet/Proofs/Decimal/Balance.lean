import CurrencyWallet.Proofs.Decimal.Arithmetic

/-!
# Balances as decimals

A balance is not negative and below `10 ^ 18`. Adding to a balance and taking from it never
leaves these bounds, whatever is rounded on the way. With ten fractional digits nothing is
rounded at all: a sum below the limit is exact, and a sum that reaches it is recognized.
-/

namespace CurrencyWallet

namespace Decimal

def WithinBounds (d : Decimal) : Prop :=
  0 ≤ d.value ∧ d.value < 10 ^ 18

/-- What a balance is meant to be: within bounds, and with no more fractional digits
than a balance has places. -/
def IsBalance (d : Decimal) : Prop :=
  d.WithinBounds ∧ d.scale ≤ balancePlaces

def limit : Decimal :=
  { zero with mantissa := 10 ^ 18, mantissa_lt := by decide }

@[simp] theorem value_limit : limit.value = 10 ^ 18 := by
  norm_num [value, limit, coefficient, zero]

theorem inBalanceRange_iff {d : Decimal} : d.InBalanceRange <-> |d.value| < 10 ^ 18 := by
  unfold InBalanceRange
  rw [abs_lt, ← Nat.cast_lt (α := ℤ), Int.natCast_natAbs, abs_lt]
  rw [← Int.cast_lt (R := ℚ), ← Int.cast_lt (R := ℚ), units_eq_value_mul]
  push_cast
  constructor
  · intro h
    constructor <;> linarith [h.left, h.right]
  · intro h
    constructor <;> linarith [h.left, h.right]

theorem withinBounds_iff {d : Decimal} : d.WithinBounds <-> 0 ≤ d.value ∧ d.InBalanceRange := by
  unfold WithinBounds
  rw [inBalanceRange_iff]
  constructor
  · intro h
    exact ⟨h.left, by rw [abs_of_nonneg h.left]; exact h.right⟩
  · intro h
    exact ⟨h.left, lt_of_abs_lt h.right⟩

theorem withinBounds_iff_units {d : Decimal} :
    d.WithinBounds <-> 0 ≤ d.units ∧ d.units < 10 ^ 18 * 10 ^ 28 := by
  unfold WithinBounds
  rw [← Int.cast_nonneg_iff (R := ℚ), ← Int.cast_lt (R := ℚ), units_eq_value_mul]
  push_cast
  constructor
  · intro h
    constructor <;> linarith [h.left, h.right]
  · intro h
    constructor <;> linarith [h.left, h.right]

instance (d : Decimal) : Decidable d.WithinBounds :=
  decidable_of_iff _ withinBounds_iff_units.symm

instance (d : Decimal) : Decidable d.IsBalance :=
  inferInstanceAs (Decidable (_ ∧ _))

theorem isBalance_zero : zero.IsBalance := by
  refine ⟨⟨?_, ?_⟩, Nat.zero_le _⟩
  · simp
  · simp

section Booking

variable {a x r : Decimal}

/-!
## At any scale
-/

theorem withinBounds_of_add? (ha : a.WithinBounds) (hx : 0 ≤ x.value) (h : a.add? x = some r)
    (hr : r.InBalanceRange) : r.WithinBounds := by
  have hsum : zero.value ≤ a.value + x.value := by
    rw [value_zero]
    linarith [ha.left]
  have hnonneg := le_add? h (Nat.zero_le _) hsum
  rw [value_zero] at hnonneg
  exact withinBounds_iff.mpr ⟨hnonneg, hr⟩

/-- What is left of a balance is not more than the balance, even where it is rounded. -/
theorem withinBounds_of_sub? (ha : a.WithinBounds) (hx : 0 ≤ x.value) (hle : x.value ≤ a.value)
    (h : a.sub? x = some r) : r.WithinBounds := by
  have hdifference : zero.value ≤ a.value - x.value := by
    rw [value_zero]
    linarith
  have hnonneg := le_sub? h (Nat.zero_le _) hdifference
  have hleft : r.value ≤ a.value := sub?_le h (Nat.le_max_left _ _) (by linarith)
  rw [value_zero] at hnonneg
  exact ⟨hnonneg, lt_of_le_of_lt hleft ha.right⟩

/-!
## With ten fractional digits
-/

theorem fits_of_places {v : ℚ} {s t : Nat} (hv : |v| < 10 ^ 18) (hs : s ≤ balancePlaces)
    (ht : t ≤ balancePlaces) : |v| * 10 ^ max s t < 2 ^ 96 := by
  have hpow : (10 : ℚ) ^ max s t ≤ 10 ^ 10 :=
    pow_le_pow_right₀ (by norm_num) (max_le hs ht)
  calc
    |v| * 10 ^ max s t ≤ |v| * 10 ^ 10 := mul_le_mul_of_nonneg_left hpow (abs_nonneg v)
    _ < 10 ^ 18 * 10 ^ 10 := mul_lt_mul_of_pos_right hv (by positivity)
    _ < 2 ^ 96 := by norm_num

theorem add?_of_lt_limit (ha : a.IsBalance) (hx : 0 ≤ x.value) (hplaces : x.scale ≤ balancePlaces)
    (hlt : a.value + x.value < 10 ^ 18) :
    exists r, a.add? x = some r ∧ r.InBalanceRange ∧ r.value = a.value + x.value := by
  have habs : |a.value + x.value| < 10 ^ 18 := by
    rw [abs_of_nonneg (by linarith [ha.left.left])]
    exact hlt
  rcases add?_exact (fits_of_places habs ha.right hplaces) with ⟨r, hr, hvalue⟩
  refine ⟨r, hr, ?_, hvalue⟩
  rw [inBalanceRange_iff, hvalue]
  exact habs

theorem lt_limit_of_add? (h : a.add? x = some r) (hr : r.InBalanceRange) :
    a.value + x.value < 10 ^ 18 := by
  rcases lt_or_ge (a.value + x.value) (10 ^ 18) with hlt | hge
  · exact hlt
  · exfalso
    rw [← value_limit] at hge
    have hreached := le_add? h (Nat.zero_le _) hge
    rw [inBalanceRange_iff] at hr
    rw [value_limit] at hreached
    exact absurd (lt_of_abs_lt hr) (not_lt.mpr hreached)

theorem value_of_add? (ha : a.IsBalance) (hx : 0 ≤ x.value) (hplaces : x.scale ≤ balancePlaces)
    (h : a.add? x = some r) (hr : r.InBalanceRange) : r.value = a.value + x.value := by
  rcases add?_of_lt_limit ha hx hplaces (lt_limit_of_add? h hr) with ⟨sum, hsum, _hrange, hvalue⟩
  rw [hsum] at h
  cases h
  exact hvalue

theorem isBalance_of_add? (ha : a.IsBalance) (hx : 0 ≤ x.value) (hplaces : x.scale ≤ balancePlaces)
    (h : a.add? x = some r) (hr : r.InBalanceRange) : r.IsBalance :=
  ⟨withinBounds_of_add? ha.left hx h hr,
    Nat.le_trans (scale_le_of_add? h) (max_le ha.right hplaces)⟩

/-- A debit of at most ten fractional digits leaves no more digits than there is room for. With
more digits than the debit has, the balance leaves room by itself. -/
theorem difference_fits (ha : a.WithinBounds) (hx : 0 ≤ x.value) (hplaces : x.scale ≤ balancePlaces)
    (hle : x.value ≤ a.value) : |a.value - x.value| * 10 ^ max a.scale x.scale < 2 ^ 96 := by
  have habs : |a.value - x.value| ≤ |a.value| := by
    rw [abs_of_nonneg (by linarith), abs_of_nonneg ha.left]
    linarith
  rcases Nat.le_total a.scale x.scale with hscale | hscale
  · have hlimit : |a.value| < 10 ^ 18 := by
      rw [abs_of_nonneg ha.left]
      exact ha.right
    exact fits_of_places (lt_of_le_of_lt habs hlimit) (Nat.le_trans hscale hplaces) hplaces
  · rw [max_eq_left hscale]
    exact lt_of_le_of_lt (mul_le_mul_of_nonneg_right habs (by positivity)) (abs_value_mul_lt a)

/-- A covered debit of at most ten fractional digits is carried out, exactly, whatever the scale
of the balance. -/
theorem sub?_of_debit (ha : a.WithinBounds) (hx : 0 ≤ x.value) (hplaces : x.scale ≤ balancePlaces)
    (hle : x.value ≤ a.value) :
    exists r, a.sub? x = some r ∧ r.WithinBounds ∧ r.value = a.value - x.value := by
  rcases sub?_exact (difference_fits ha hx hplaces hle) with ⟨r, hr, hvalue⟩
  exact ⟨r, hr, withinBounds_of_sub? ha hx hle hr, hvalue⟩

theorem sub?_of_covered (ha : a.IsBalance) (hx : 0 ≤ x.value) (hplaces : x.scale ≤ balancePlaces)
    (hle : x.value ≤ a.value) :
    exists r, a.sub? x = some r ∧ r.IsBalance ∧ r.value = a.value - x.value := by
  rcases sub?_of_debit ha.left hx hplaces hle with ⟨r, hr, hbounds, hvalue⟩
  exact ⟨r, hr, ⟨hbounds, Nat.le_trans (scale_le_of_sub? hr) (max_le ha.right hplaces)⟩, hvalue⟩

end Booking

end Decimal

end CurrencyWallet
