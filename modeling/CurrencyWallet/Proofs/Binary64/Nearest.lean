import CurrencyWallet.Binary64.Basic
import CurrencyWallet.Proofs.Decimal.Fitting
import Mathlib.Algebra.Order.Field.Power
import Mathlib.Data.Rat.Cast.Order

/-!
# The nearest binary number

A finite number of the format stands for a rational number. A ratio is read as a number of the
format that is nearest to it, and is at most half a unit of the last bit away.
-/

namespace CurrencyWallet

/-!
## Powers of two and quotients
-/

theorem two_zpow_eq (e : ℤ) : (2 : ℚ) ^ e = 2 ^ e.toNat / 2 ^ (-e).toNat := by
  have hsplit : e = (e.toNat : ℤ) - ((-e).toNat : ℤ) := (Int.toNat_sub_toNat_neg e).symm
  conv_lhs => rw [hsplit]
  rw [zpow_sub₀ two_ne_zero, zpow_natCast, zpow_natCast]

theorem abs_sub_div_mul_zpow (a b : ℚ) (e : ℤ) :
    |a - b / 2 ^ e| * 2 ^ e = |a * 2 ^ e - b| := by
  have hpos : (0 : ℚ) < 2 ^ e := by positivity
  rw [← abs_of_pos hpos, ← abs_mul, abs_of_pos hpos, sub_mul, div_mul_cancel₀ _ hpos.ne']

theorem abs_divHalfEven_sub_le {n d : Nat} (hd : 0 < d) :
    |(divHalfEven n d : ℚ) - n / d| ≤ 1 / 2 := by
  have hpos : (0 : ℚ) < d := by exact_mod_cast hd
  have hupper : (2 : ℚ) * (divHalfEven n d * d) ≤ 2 * n + d := by
    exact_mod_cast two_mul_divHalfEven_le (n := n) hd
  have hlower : (2 : ℚ) * n ≤ 2 * (divHalfEven n d * d) + d := by
    exact_mod_cast two_mul_le_divHalfEven (n := n) hd
  have hshift : ((divHalfEven n d : ℚ) - n / d) * d = divHalfEven n d * d - n := by
    field_simp
  rw [abs_le]
  constructor
  · apply le_of_mul_le_mul_right _ hpos
    rw [hshift]
    linarith
  · apply le_of_mul_le_mul_right _ hpos
    rw [hshift]
    linarith

theorem divHalfEven_nearest {n d : Nat} (hd : 0 < d) (k : ℤ) :
    |(divHalfEven n d : ℚ) - n / d| ≤ |(k : ℚ) - n / d| := by
  have hhalf := abs_divHalfEven_sub_le (n := n) hd
  by_cases hsame : k = divHalfEven n d
  · rw [hsame, Int.cast_natCast]
  · have hapart : (1 : ℚ) ≤ |(k : ℚ) - divHalfEven n d| := by
      have hone := Int.one_le_abs (sub_ne_zero.mpr hsame)
      exact_mod_cast hone
    have htriangle := abs_sub_le (k : ℚ) (n / d) (divHalfEven n d)
    rw [abs_sub_comm ((n : ℚ) / d)] at htriangle
    linarith

namespace Binary64

/-!
## Values
-/

theorem abs_sign (negative : Bool) : |(if negative then -1 else 1 : ℚ)| = 1 := by
  cases negative with
  | false => simp
  | true => simp

def value (x : Binary64) : ℚ :=
  (if x.negative then -1 else 1) * (x.significand * 2 ^ x.exponent)

/-- No finite number of the format is nearer. Of two that are equally near both are. -/
structure IsNearest (x : Binary64) (q : ℚ) : Prop where
  finite : x.IsFinite
  nearest : forall y : Binary64, y.IsFinite -> |x.value - q| ≤ |y.value - q|

theorem significand_lt (x : Binary64) : x.significand < 2 ^ 53 := by
  have hfraction : x.fractionBits < 2 ^ 52 := Nat.mod_lt _ (by decide)
  unfold significand
  split <;> omega

theorem le_exponent (x : Binary64) : -1074 ≤ x.exponent := by
  unfold exponent
  omega

theorem abs_value (x : Binary64) : |x.value| = x.significand * 2 ^ x.exponent := by
  have hnonneg : (0 : ℚ) ≤ x.significand * 2 ^ x.exponent := by positivity
  rw [value, abs_mul, abs_sign, one_mul, abs_of_nonneg hnonneg]

theorem exists_value_eq_intCast {x : Binary64} (h : 0 ≤ x.exponent) :
    exists n : ℤ, x.value = n := by
  rcases Int.eq_ofNat_of_zero_le h with ⟨k, hk⟩
  refine ⟨(if x.negative then -1 else 1) * (x.significand * 2 ^ k), ?_⟩
  rw [value, hk]
  push_cast
  rw [zpow_natCast]

/-!
## Numbers from their bits
-/

section Bits

variable (negative : Bool) {magnitude : Nat}

theorem toNat_ofMagnitude (h : magnitude < 2 ^ 63) :
    (ofMagnitude negative magnitude).bits.toNat = (if negative then 2 ^ 63 else 0) + magnitude := by
  rw [ofMagnitude, UInt64.toNat_ofNat']
  apply Nat.mod_eq_of_lt
  split <;> omega

theorem negative_ofMagnitude (h : magnitude < 2 ^ 63) :
    (ofMagnitude negative magnitude).negative = negative := by
  rw [Binary64.negative, toNat_ofMagnitude negative h]
  cases negative with
  | false => simpa using h
  | true => simp

theorem exponentBits_ofMagnitude (h : magnitude < 2 ^ 63) :
    (ofMagnitude negative magnitude).exponentBits = magnitude / 2 ^ 52 := by
  rw [exponentBits, toNat_ofMagnitude negative h]
  split <;> omega

theorem fractionBits_ofMagnitude (h : magnitude < 2 ^ 63) :
    (ofMagnitude negative magnitude).fractionBits = magnitude % 2 ^ 52 := by
  rw [fractionBits, toNat_ofMagnitude negative h]
  split <;> omega

theorem value_ofMagnitude {k q : Nat} (hmagnitude : k * 2 ^ 52 + q < 2047 * 2 ^ 52)
    (hq : q ≤ 2 ^ 53) (hk : 0 < k -> 2 ^ 52 ≤ q) :
    (ofMagnitude negative (k * 2 ^ 52 + q)).IsFinite ∧
      (ofMagnitude negative (k * 2 ^ 52 + q)).value =
        (if negative then -1 else 1) * (q * 2 ^ ((k : ℤ) - 1074)) := by
  have hbits : k * 2 ^ 52 + q < 2 ^ 63 := by omega
  have hexponent := exponentBits_ofMagnitude negative hbits
  have hfraction := fractionBits_ofMagnitude negative hbits
  constructor
  · rw [IsFinite, hexponent]
    omega
  · rw [value, negative_ofMagnitude negative hbits, significand, exponent, hexponent, hfraction]
    congr 1
    rcases Nat.lt_or_ge q (2 ^ 52) with hsmall | hlarge
    · have hzero : k = 0 := by omega
      subst hzero
      rw [if_pos (by omega), Nat.div_eq_of_lt (by omega), Nat.mod_eq_of_lt (by omega), Nat.zero_mul,
        Nat.zero_add]
      norm_num
    · rcases Nat.lt_or_eq_of_le hq with hshort | hcarry
      · have hfield : (k * 2 ^ 52 + q) / 2 ^ 52 = k + 1 := by omega
        have hdigits : 2 ^ 52 + (k * 2 ^ 52 + q) % 2 ^ 52 = q := by omega
        rw [hfield, if_neg (Nat.succ_ne_zero k), hdigits]
        congr 2
        omega
      · have hfield : (k * 2 ^ 52 + q) / 2 ^ 52 = k + 2 := by omega
        have hdigits : 2 ^ 52 + (k * 2 ^ 52 + q) % 2 ^ 52 = 2 ^ 52 := by omega
        have hscale : ((max (k + 2) 1 : Nat) : ℤ) - 1075 = (k : ℤ) - 1074 + 1 := by omega
        rw [hfield, if_neg (Nat.succ_ne_zero _), hdigits, hscale, zpow_add_one₀ two_ne_zero, hcarry]
        push_cast
        ring

end Bits

/-!
## Numbers from ratios
-/

section Ratio

variable {negative : Bool} {n d : Nat} (hn : 0 < n) (hd : 0 < d)

include hn hd

omit hn in
theorem two_zpow_le_div_iff (l : ℤ) :
    (2 : ℚ) ^ l ≤ n / d <-> d * 2 ^ l.toNat ≤ n * 2 ^ (-l).toNat := by
  have hdpos : (0 : ℚ) < d := by exact_mod_cast hd
  rw [two_zpow_eq, div_le_div_iff₀ (by positivity) hdpos]
  norm_cast
  rw [Nat.mul_comm]

omit hn in
theorem exponentOfRatio_eq :
    exponentOfRatio n d =
      max (if (2 : ℚ) ^ ((n.log2 : ℤ) - d.log2) ≤ n / d then (n.log2 : ℤ) - d.log2 - 52
        else (n.log2 : ℤ) - d.log2 - 53) (-1074) := by
  have hreached : ((if 0 ≤ (n.log2 : ℤ) - d.log2 then
      decide (d * 2 ^ ((n.log2 : ℤ) - d.log2).toNat ≤ n)
      else decide (d ≤ n * 2 ^ (-((n.log2 : ℤ) - d.log2)).toNat)) = true) <->
      (2 : ℚ) ^ ((n.log2 : ℤ) - d.log2) ≤ n / d := by
    rw [two_zpow_le_div_iff hd]
    split
    case isTrue hup =>
        rw [Int.toNat_of_nonpos (show -((n.log2 : ℤ) - d.log2) ≤ 0 by omega), pow_zero, Nat.mul_one,
          decide_eq_true_iff]
    case isFalse hdown =>
        rw [Int.toNat_of_nonpos (show (n.log2 : ℤ) - d.log2 ≤ 0 by omega), pow_zero, Nat.mul_one,
          decide_eq_true_iff]
  simp only [exponentOfRatio, hreached]

theorem exponentOfRatio_spec : exists f : ℤ,
    (2 : ℚ) ^ f ≤ n / d ∧ (n : ℚ) / d < 2 ^ (f + 1) ∧
      exponentOfRatio n d = max (f - 52) (-1074) := by
  have hdpos : (0 : ℚ) < d := by exact_mod_cast hd
  have hnlower : (2 : ℚ) ^ (n.log2 : ℤ) ≤ n := by
    exact_mod_cast Nat.log2_self_le (Nat.ne_of_gt hn)
  have hnupper : (n : ℚ) < 2 ^ ((n.log2 : ℤ) + 1) := by
    exact_mod_cast Nat.lt_log2_self (n := n)
  have hdlower : (2 : ℚ) ^ (d.log2 : ℤ) ≤ d := by
    exact_mod_cast Nat.log2_self_le (Nat.ne_of_gt hd)
  have hdupper : (d : ℚ) < 2 ^ ((d.log2 : ℤ) + 1) := by
    exact_mod_cast Nat.lt_log2_self (n := d)
  have hbelow : (2 : ℚ) ^ ((n.log2 : ℤ) - d.log2 - 1) ≤ n / d := by
    rw [le_div_iff₀ hdpos]
    calc (2 : ℚ) ^ ((n.log2 : ℤ) - d.log2 - 1) * d
        ≤ 2 ^ ((n.log2 : ℤ) - d.log2 - 1) * 2 ^ ((d.log2 : ℤ) + 1) := by gcongr
      _ = 2 ^ (n.log2 : ℤ) := by
        rw [← zpow_add₀ two_ne_zero]
        congr 1
        ring
      _ ≤ n := hnlower
  have habove : (n : ℚ) / d < 2 ^ ((n.log2 : ℤ) - d.log2 + 1) := by
    rw [div_lt_iff₀ hdpos]
    calc (n : ℚ) < 2 ^ ((n.log2 : ℤ) + 1) := hnupper
      _ = 2 ^ ((n.log2 : ℤ) - d.log2 + 1) * 2 ^ (d.log2 : ℤ) := by
        rw [← zpow_add₀ two_ne_zero]
        congr 1
        ring
      _ ≤ 2 ^ ((n.log2 : ℤ) - d.log2 + 1) * d := by gcongr
  by_cases hreached : (2 : ℚ) ^ ((n.log2 : ℤ) - d.log2) ≤ n / d
  · refine ⟨(n.log2 : ℤ) - d.log2, hreached, habove, ?_⟩
    rw [exponentOfRatio_eq hd, if_pos hreached]
  · refine ⟨(n.log2 : ℤ) - d.log2 - 1, hbelow, ?_, ?_⟩
    · rw [Int.sub_add_cancel]
      exact not_le.mp hreached
    · rw [exponentOfRatio_eq hd, if_neg hreached, sub_sub _ 1 52]
      rfl

omit hn in
theorem scaled_ratio (e : ℤ) :
    ((n * 2 ^ (-e).toNat : ℕ) : ℚ) / (d * 2 ^ e.toNat : ℕ) = n / d / 2 ^ e := by
  have hdpos : (d : ℚ) ≠ 0 := by exact_mod_cast Nat.ne_of_gt hd
  rw [two_zpow_eq]
  push_cast
  field_simp

theorem ratio_lt : (n : ℚ) / d / 2 ^ exponentOfRatio n d < 2 ^ 53 := by
  rcases exponentOfRatio_spec hn hd with ⟨f, _, hupper, hexponent⟩
  rw [div_lt_iff₀ (by positivity)]
  calc (n : ℚ) / d < 2 ^ (f + 1) := hupper
    _ ≤ 2 ^ (53 + exponentOfRatio n d) := zpow_le_zpow_right₀ one_le_two (by omega)
    _ = 2 ^ 53 * 2 ^ exponentOfRatio n d := by
      rw [zpow_add₀ two_ne_zero]
      norm_num

theorem le_ratio (hnormal : -1074 < exponentOfRatio n d) :
    (2 : ℚ) ^ 52 ≤ n / d / 2 ^ exponentOfRatio n d := by
  rcases exponentOfRatio_spec hn hd with ⟨f, hlower, _, hexponent⟩
  have hf : f = 52 + exponentOfRatio n d := by omega
  rw [le_div_iff₀ (by positivity)]
  calc (2 : ℚ) ^ 52 * 2 ^ exponentOfRatio n d = 2 ^ f := by
        rw [hf, zpow_add₀ two_ne_zero]
        norm_num
    _ ≤ n / d := hlower

omit hn hd in
def roundedSignificand (n d : Nat) : Nat :=
  divHalfEven (n * 2 ^ (-exponentOfRatio n d).toNat) (d * 2 ^ (exponentOfRatio n d).toNat)

omit hn in
theorem abs_roundedSignificand_sub_le :
    |(roundedSignificand n d : ℚ) - n / d / 2 ^ exponentOfRatio n d| ≤ 1 / 2 := by
  rw [← scaled_ratio hd]
  exact abs_divHalfEven_sub_le (Nat.mul_pos hd (Nat.two_pow_pos _))

omit hn in
theorem roundedSignificand_nearest (k : ℤ) :
    |(roundedSignificand n d : ℚ) - n / d / 2 ^ exponentOfRatio n d| ≤
      |(k : ℚ) - n / d / 2 ^ exponentOfRatio n d| := by
  rw [← scaled_ratio hd]
  exact divHalfEven_nearest (Nat.mul_pos hd (Nat.two_pow_pos _)) k

theorem roundedSignificand_le : roundedSignificand n d ≤ 2 ^ 53 := by
  have hratio := ratio_lt hn hd
  have hclose := (abs_le.mp (abs_roundedSignificand_sub_le (n := n) hd)).2
  have hbelow : (roundedSignificand n d : ℚ) < (2 ^ 53 + 1 : ℕ) := by
    push_cast
    linarith
  exact Nat.lt_succ_iff.mp (by exact_mod_cast hbelow)

theorem le_roundedSignificand (hnormal : -1074 < exponentOfRatio n d) :
    2 ^ 52 ≤ roundedSignificand n d := by
  have hratio := le_ratio hn hd hnormal
  have hclose := (abs_le.mp (abs_roundedSignificand_sub_le (n := n) hd)).1
  have habove : ((2 ^ 52 : ℕ) : ℚ) < (roundedSignificand n d + 1 : ℕ) := by
    push_cast
    linarith
  exact Nat.lt_succ_iff.mp (by exact_mod_cast habove)

omit hd in
theorem ofRatio?_eq : ofRatio? negative n d =
    if (exponentOfRatio n d + 1074).toNat * 2 ^ 52 + roundedSignificand n d < 2047 * 2 ^ 52 then
      some (ofMagnitude negative
        ((exponentOfRatio n d + 1074).toNat * 2 ^ 52 + roundedSignificand n d))
    else none := by
  rw [ofRatio?, if_neg (Nat.ne_of_gt hn)]
  rfl

omit hn in
theorem neg_1074_le_exponentOfRatio : -1074 ≤ exponentOfRatio n d := by
  rw [exponentOfRatio_eq hd]
  exact le_max_right _ _

theorem value_of_ofRatio? {x : Binary64} (h : ofRatio? negative n d = some x) :
    x.IsFinite ∧ x.value = (if negative then -1 else 1) *
      (roundedSignificand n d * 2 ^ exponentOfRatio n d) := by
  rw [ofRatio?_eq hn] at h
  split at h
  case isTrue hfits =>
      have hexponent := neg_1074_le_exponentOfRatio (n := n) hd
      have hvalue := value_ofMagnitude negative hfits (roundedSignificand_le hn hd)
        fun hpos => le_roundedSignificand hn hd (by omega)
      rw [show ((exponentOfRatio n d + 1074).toNat : ℤ) - 1074 = exponentOfRatio n d by omega]
        at hvalue
      rwa [← Option.some.inj h]
  case isFalse => cases h

theorem abs_value_sub_of_ofRatio? {x : Binary64} (h : ofRatio? negative n d = some x) :
    |x.value - (if negative then -1 else 1) * (n / d)| =
      |roundedSignificand n d - (n : ℚ) / d / 2 ^ exponentOfRatio n d| *
        2 ^ exponentOfRatio n d := by
  rw [(value_of_ofRatio? hn hd h).2, abs_sub_div_mul_zpow, ← mul_sub, abs_mul, abs_sign, one_mul]

theorem exists_ofRatio? (negative : Bool) (hexponent : exponentOfRatio n d ≤ 970) :
    exists x, ofRatio? negative n d = some x := by
  have hsignificand := roundedSignificand_le hn hd
  have hleast := neg_1074_le_exponentOfRatio (n := n) hd
  rw [ofRatio?_eq hn, if_pos (by omega)]
  exact ⟨_, rfl⟩

end Ratio

theorem ofRatio?_zero (negative : Bool) (d : Nat) :
    exists x, ofRatio? negative 0 d = some x ∧ x.IsFinite ∧ x.value = 0 := by
  have hvalue := value_ofMagnitude negative (k := 0) (q := 0) (by decide)
    (by decide) (by decide)
  refine ⟨_, rfl, hvalue.1, hvalue.2.trans ?_⟩
  simp

/-- The number that a ratio is read as is nearest to it. -/
theorem isNearest_of_ofRatio? {negative : Bool} {n d : Nat} {x : Binary64} (hd : 0 < d)
    (h : ofRatio? negative n d = some x) :
    x.IsNearest ((if negative then -1 else 1) * (n / d)) := by
  rcases Nat.eq_zero_or_pos n with hzero | hn
  · subst hzero
    rcases ofRatio?_zero negative d with ⟨z, hz, hfinite, hvalue⟩
    rw [Option.some.inj (h.symm.trans hz)]
    refine ⟨hfinite, fun y _ => ?_⟩
    rw [hvalue]
    simp
  · refine ⟨(value_of_ofRatio? hn hd h).1, fun y hy => ?_⟩
    have hdistance : |y.significand * 2 ^ (y.exponent - exponentOfRatio n d) -
        (n : ℚ) / d / 2 ^ exponentOfRatio n d| * 2 ^ exponentOfRatio n d ≤
          |y.value - (if negative then -1 else 1) * (n / d)| := by
      have hsize : |(if negative then -1 else 1) * ((n : ℚ) / d)| = n / d := by
        rw [abs_mul, abs_sign, one_mul, abs_of_nonneg (by positivity)]
      rw [abs_sub_div_mul_zpow, mul_assoc, ← zpow_add₀ two_ne_zero, sub_add_cancel, ← abs_value]
      conv_lhs => rw [← hsize]
      exact abs_abs_sub_abs_le _ _
    rw [abs_value_sub_of_ofRatio? hn hd h]
    apply le_trans _ hdistance
    apply mul_le_mul_of_nonneg_right _ (by positivity)
    rcases le_or_gt (exponentOfRatio n d) y.exponent with hcoarse | hfine
    · have hwhole : (y.significand : ℚ) * 2 ^ (y.exponent - exponentOfRatio n d) =
          ((y.significand * 2 ^ (y.exponent - exponentOfRatio n d).toNat : ℕ) : ℤ) := by
        push_cast
        rw [← zpow_natCast, Int.toNat_of_nonneg (by omega)]
      rw [hwhole]
      exact roundedSignificand_nearest hd _
    -- On a finer grid all numbers are below the significands of 53 bits, and so is their distance
    -- to the ratio no less than that of the smallest of these.
    · have hratio := le_ratio hn hd (lt_of_le_of_lt (le_exponent y) hfine)
      have hbelow : (y.significand : ℚ) * 2 ^ (y.exponent - exponentOfRatio n d) ≤ 2 ^ 52 := by
        calc (y.significand : ℚ) * 2 ^ (y.exponent - exponentOfRatio n d)
            ≤ 2 ^ 53 * 2 ^ (-1 : ℤ) := by
              gcongr
              · exact_mod_cast (significand_lt y).le
              · exact one_le_two
              · omega
          _ = 2 ^ 52 := by norm_num
      apply le_trans (roundedSignificand_nearest hd (2 ^ 52))
      push_cast
      rw [abs_sub_comm, abs_of_nonneg (by linarith), abs_sub_comm, abs_of_nonneg (by linarith)]
      linarith

/-- A ratio below `2 ^ (e + 53)` is at most half of `2 ^ e` away from what it is read as. -/
theorem exists_ofRatio?_near (negative : Bool) {n d : Nat} {e : ℤ} (hd : 0 < d)
    (hlow : -1074 ≤ e) (hhigh : e ≤ 970) (hsize : (n : ℚ) / d < 2 ^ (e + 53)) :
    exists x, ofRatio? negative n d = some x ∧
      |x.value - (if negative then -1 else 1) * (n / d)| ≤ 2 ^ e / 2 := by
  rcases Nat.eq_zero_or_pos n with hzero | hn
  · subst hzero
    rcases ofRatio?_zero negative d with ⟨x, hx, _, hvalue⟩
    refine ⟨x, hx, ?_⟩
    rw [hvalue]
    simp
    positivity
  · rcases exponentOfRatio_spec hn hd with ⟨f, hlower, _, hexponent⟩
    have hf : f < e + 53 :=
      (zpow_lt_zpow_iff_right₀ one_lt_two).mp (lt_of_le_of_lt hlower hsize)
    have hfine : exponentOfRatio n d ≤ e := by omega
    rcases exists_ofRatio? hn hd negative (hfine.trans hhigh) with ⟨x, hx⟩
    refine ⟨x, hx, ?_⟩
    rw [abs_value_sub_of_ofRatio? hn hd hx]
    calc |roundedSignificand n d - (n : ℚ) / d / 2 ^ exponentOfRatio n d| * 2 ^ exponentOfRatio n d
        ≤ 1 / 2 * 2 ^ e := by
          gcongr
          · exact abs_roundedSignificand_sub_le hd
          · exact one_le_two
      _ = 2 ^ e / 2 := by ring

end Binary64

end CurrencyWallet
