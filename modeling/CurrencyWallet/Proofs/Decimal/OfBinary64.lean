import CurrencyWallet.Decimal.OfBinary64
import CurrencyWallet.Proofs.Binary64.Nearest
import CurrencyWallet.Proofs.Decimal.Value
import Mathlib.Algebra.Order.Field.Power

/-!
# The accuracy of decimals of binary numbers

A finite binary number has a decimal exactly when it is below `2 ^ 96` in magnitude. A whole one
has the same value as its decimal. Any other loses what does not fit into 96 bits while the powers
of two are traded, and then the digits that are dropped.
-/

namespace CurrencyWallet

namespace Decimal

/-!
## Trading powers of two for powers of ten
-/

/-- One step keeps the value, or drops a bit of at least 94. -/
theorem tradeHalves_succ {m : Nat} (hm : m < 2 ^ 96) (e : ℤ) (n : Nat) :
    exists m' e', tradeHalves m e (n + 1) = tradeHalves m' e' n ∧ m' < 2 ^ 96 ∧ e' ≤ e + 1 ∧
      (m' : ℚ) * 10 ^ e' ≤ 5 * (m * 10 ^ e) ∧
      5 * (m * 10 ^ e) - 5 / 2 ^ 96 * (5 * (m * 10 ^ e)) ≤ (m' : ℚ) * 10 ^ e' := by
  have hpow : (10 : ℚ) ^ (e + 1) = 10 * 10 ^ e := by
    rw [zpow_add_one₀ (by norm_num), mul_comm]
  have hpos : (0 : ℚ) < 10 ^ e := by positivity
  have hnonneg : (0 : ℚ) ≤ m * 10 ^ e := by positivity
  rw [tradeHalves]
  split
  case isTrue heven =>
      have hhalf : (m : ℚ) = 2 * (m / 2 : ℕ) := by
        exact_mod_cast (by omega : m = 2 * (m / 2))
      have hsame : ((m / 2 : ℕ) : ℚ) * 10 ^ (e + 1) = 5 * (m * 10 ^ e) := by
        rw [hpow, hhalf]
        ring
      refine ⟨m / 2, e + 1, rfl, by omega, le_rfl, ?_, ?_⟩ <;> linarith
  case isFalse hodd =>
      split
      case isTrue hroom =>
          have hsame : ((5 * m : ℕ) : ℚ) * 10 ^ e = 5 * (m * 10 ^ e) := by
            push_cast
            ring
          refine ⟨5 * m, e, rfl, hroom, by omega, ?_, ?_⟩ <;> linarith
      case isFalse hlong =>
          have hhalf : (m : ℚ) = 2 * (m / 2 : ℕ) + 1 := by
            exact_mod_cast (by omega : m = 2 * (m / 2) + 1)
          have hdigits : (2 : ℚ) ^ 96 ≤ 5 * m := by
            exact_mod_cast not_lt.mp hlong
          have hless : ((m / 2 : ℕ) : ℚ) * 10 ^ (e + 1) = 5 * (m * 10 ^ e) - 5 * 10 ^ e := by
            rw [hpow, hhalf]
            ring
          have hbit : 5 * (10 : ℚ) ^ e ≤ 5 / 2 ^ 96 * (5 * (m * 10 ^ e)) := by
            calc 5 * (10 : ℚ) ^ e = 5 / 2 ^ 96 * (2 ^ 96 * 10 ^ e) := by ring
              _ ≤ 5 / 2 ^ 96 * (5 * m * 10 ^ e) := by gcongr
              _ = 5 / 2 ^ 96 * (5 * (m * 10 ^ e)) := by ring
          refine ⟨m / 2, e + 1, rfl, by omega, le_rfl, ?_, ?_⟩ <;> linarith

theorem tradeHalves_spec {m : Nat} (hm : m < 2 ^ 96) (e : ℤ) (n : Nat) :
    (tradeHalves m e n).1 < 2 ^ 96 ∧ (tradeHalves m e n).2 ≤ e + n ∧
      ((tradeHalves m e n).1 : ℚ) * 10 ^ (tradeHalves m e n).2 ≤ m * 10 ^ e * 5 ^ n ∧
      m * 10 ^ e * 5 ^ n - n * (5 / 2 ^ 96) * (m * 10 ^ e * 5 ^ n) ≤
        ((tradeHalves m e n).1 : ℚ) * 10 ^ (tradeHalves m e n).2 := by
  induction n generalizing m e with
  | zero =>
      refine ⟨hm, ?_, ?_, ?_⟩ <;> simp [tradeHalves]
  | succ n ih =>
      rcases tradeHalves_succ hm e n with ⟨m', e', hstep, hm', hexponent, hle, hge⟩
      rcases ih hm' e' with ⟨hfits, hbound, hupper, hlower⟩
      rw [hstep]
      have hshift : (m : ℚ) * 10 ^ e * 5 ^ (n + 1) = 5 * (m * 10 ^ e) * 5 ^ n := by ring
      have hle' : (m' : ℚ) * 10 ^ e' * 5 ^ n ≤ 5 * (m * 10 ^ e) * 5 ^ n := by gcongr
      have hge' : (5 * (m * 10 ^ e) - 5 / 2 ^ 96 * (5 * (m * 10 ^ e))) * 5 ^ n ≤
          (m' : ℚ) * 10 ^ e' * 5 ^ n := by gcongr
      have hloss : (n : ℚ) * (5 / 2 ^ 96) * (m' * 10 ^ e' * 5 ^ n) ≤
          n * (5 / 2 ^ 96) * (5 * (m * 10 ^ e) * 5 ^ n) := by gcongr
      rw [hshift]
      refine ⟨hfits, by push_cast; omega, hupper.trans hle', ?_⟩
      push_cast
      linarith

theorem tradeDoubles?_eq {m : Nat} (hm : m < 2 ^ 96) (n : Nat) :
    tradeDoubles? m n n = if m * 2 ^ n < 2 ^ 96 then some (m * 2 ^ n, 0) else none := by
  induction n generalizing m with
  | zero => rw [tradeDoubles?, pow_zero, mul_one, if_pos hm, Nat.cast_zero]
  | succ n ih =>
      have hdouble : 2 * m * 2 ^ n = m * 2 ^ (n + 1) := by ring
      rw [tradeDoubles?]
      split
      case isTrue hroom =>
          rw [Nat.cast_add_one, add_sub_cancel_right, ih (by omega), hdouble]
      case isFalse hlong =>
          have hlarge : 2 ^ 95 * 2 ^ 1 ≤ m * 2 ^ (n + 1) :=
            Nat.mul_le_mul (not_lt.mp hlong) (Nat.pow_le_pow_right (by decide) (by omega))
          rw [if_pos (by push_cast; omega), if_neg (by omega)]

/-!
## Dropping digits
-/

theorem dropDigit_le (m : Nat) : dropDigit m ≤ m := by
  unfold dropDigit
  split <;> omega

theorem one_div_ten_pow_sub (s : Nat) :
    (1 : ℚ) / 10 ^ s - 1 / 10 ^ (s + 1) = 9 / 10 ^ (s + 1) := by
  rw [pow_succ]
  field_simp
  norm_num

theorem abs_dropDigit_sub_le (m s : Nat) :
    |(dropDigit m : ℚ) / 10 ^ s - m / 10 ^ (s + 1)| ≤ 1 / 10 ^ s - 1 / 10 ^ (s + 1) := by
  have hpos : (0 : ℚ) < 10 ^ (s + 1) := by positivity
  have hshift : (dropDigit m : ℚ) / 10 ^ s = 10 * dropDigit m / 10 ^ (s + 1) := by
    rw [pow_succ]
    field_simp
  have hlower : (m : ℚ) ≤ 10 * dropDigit m + 5 := by
    have hdigit : m ≤ 10 * dropDigit m + 5 := by
      unfold dropDigit
      split <;> omega
    exact_mod_cast hdigit
  have hupper : (10 : ℚ) * dropDigit m ≤ m + 5 := by
    have hdigit : 10 * dropDigit m ≤ m + 5 := by
      unfold dropDigit
      split <;> omega
    exact_mod_cast hdigit
  rw [one_div_ten_pow_sub, hshift, ← sub_div, abs_div, abs_of_pos hpos]
  gcongr
  rw [abs_le]
  constructor <;> linarith

theorem dropBeyond_spec (m n : Nat) :
    (dropBeyond m n).1 ≤ m ∧ (dropBeyond m n).2 ≤ 28 ∧
      |((dropBeyond m n).1 : ℚ) / 10 ^ (dropBeyond m n).2 - m / 10 ^ (28 + n)| ≤
        1 / 10 ^ 28 - 1 / 10 ^ (28 + n) := by
  induction n generalizing m with
  | zero =>
      refine ⟨le_rfl, le_rfl, ?_⟩
      simp [dropBeyond]
  | succ n ih =>
      rw [dropBeyond, ← Nat.add_assoc]
      split
      case isTrue hnone =>
          have hdigit : (m : ℚ) ≤ 9 := by
            exact_mod_cast (by omega : m ≤ 9)
          have hrest : (m : ℚ) / 10 ^ (28 + n + 1) ≤ 1 / 10 ^ (28 + n) - 1 / 10 ^ (28 + n + 1) := by
            rw [one_div_ten_pow_sub]
            gcongr
          have hfirst : (1 : ℚ) / 10 ^ (28 + n) ≤ 1 / 10 ^ 28 := by
            gcongr
            · norm_num
            · omega
          refine ⟨Nat.zero_le _, by decide, ?_⟩
          rw [Nat.cast_zero, zero_div, zero_sub, abs_neg, abs_of_nonneg (by positivity)]
          linarith
      case isFalse =>
          rcases ih (dropDigit m) with ⟨hle, hscale, hclose⟩
          have hdrop := abs_dropDigit_sub_le m (28 + n)
          refine ⟨hle.trans (dropDigit_le m), hscale, ?_⟩
          apply (abs_sub_le _ ((dropDigit m : ℚ) / 10 ^ (28 + n)) _).trans
          linarith

/-- Digits are dropped until the rest is short. What is lost is less than a unit of the last place
that remains. -/
theorem dropExcess_spec (m s : Nat) :
    (dropExcess m s).1 ≤ m ∧ (dropExcess m s).2 ≤ s ∧
      |((dropExcess m s).1 : ℚ) / 10 ^ (dropExcess m s).2 - m / 10 ^ s| ≤
        1 / 10 ^ (dropExcess m s).2 - 1 / 10 ^ s := by
  induction s generalizing m with
  | zero =>
      refine ⟨le_rfl, le_rfl, ?_⟩
      simp [dropExcess]
  | succ s ih =>
      rw [dropExcess]
      split
      case isTrue =>
          rcases ih (dropDigit m) with ⟨hle, hscale, hclose⟩
          have hdrop := abs_dropDigit_sub_le m s
          refine ⟨hle.trans (dropDigit_le m), by omega, ?_⟩
          apply (abs_sub_le _ ((dropDigit m : ℚ) / 10 ^ s) _).trans
          linarith
      case isFalse =>
          refine ⟨le_rfl, le_rfl, ?_⟩
          simp

/-- A place is dropped only if the number with it takes more than 52 bits. -/
theorem long_of_dropExcess (m s : Nat) : (dropExcess m s).2 = s ∨
    ((2 : ℚ) ^ 52 - 1) / 10 ^ ((dropExcess m s).2 + 1) ≤ m / 10 ^ s - 1 / 10 ^ s := by
  induction s generalizing m with
  | zero => exact .inl rfl
  | succ s ih =>
      rw [dropExcess]
      split
      case isTrue hlong =>
          right
          have hdigits : (2 : ℚ) ^ 52 ≤ m := by exact_mod_cast hlong
          rcases ih (dropDigit m) with hsame | hdropped
          · rw [hsame, ← sub_div]
            gcongr
          · have hdrop := (abs_le.mp (abs_dropDigit_sub_le m s)).2
            linarith
      case isFalse => exact .inl rfl

theorem dropExcess_near {m s p : Nat} (h : p = 0 ∨ (m : ℚ) / 10 ^ s * 10 ^ p + 1 ≤ 2 ^ 52) :
    |((dropExcess m s).1 : ℚ) / 10 ^ (dropExcess m s).2 - m / 10 ^ s| ≤ 1 / 10 ^ p := by
  rcases dropExcess_spec m s with ⟨_, hscale, hclose⟩
  rcases long_of_dropExcess m s with hsame | hlong
  · rw [hsame, sub_self] at hclose
    rw [hsame]
    exact hclose.trans (by positivity)
  · have hpos : (0 : ℚ) < 1 / 10 ^ s := by positivity
    rcases Nat.lt_or_ge (dropExcess m s).2 p with hcoarse | hfine
    · exfalso
      have hshort : (m : ℚ) / 10 ^ s * 10 ^ p ≤ 2 ^ 52 - 1 := by
        rcases h with hp | hp
        · omega
        · linarith
      have hplaces : ((2 : ℚ) ^ 52 - 1) / 10 ^ p ≤
          (2 ^ 52 - 1) / 10 ^ ((dropExcess m s).2 + 1) := by
        gcongr
        · norm_num
        · exact hcoarse
      rw [← le_div_iff₀ (by positivity)] at hshort
      linarith
    · have hplace : (1 : ℚ) / 10 ^ (dropExcess m s).2 ≤ 1 / 10 ^ p := by
        gcongr
        norm_num
      linarith

theorem stripZeros_spec (m s : Nat) :
    (stripZeros m s).1 ≤ m ∧ (stripZeros m s).2 ≤ s ∧
      ((stripZeros m s).1 : ℚ) / 10 ^ (stripZeros m s).2 = m / 10 ^ s := by
  induction s generalizing m with
  | zero => exact ⟨le_rfl, le_rfl, rfl⟩
  | succ s ih =>
      rw [stripZeros]
      split
      case isTrue hzero =>
          rcases ih (m / 10) with ⟨hle, hscale, hvalue⟩
          have hdigits : (m : ℚ) = 10 * (m / 10 : ℕ) := by
            exact_mod_cast (by omega : m = 10 * (m / 10))
          refine ⟨hle.trans (Nat.div_le_self m 10), by omega, ?_⟩
          rw [hvalue, hdigits, pow_succ]
          field_simp
      case isFalse => exact ⟨le_rfl, le_rfl, rfl⟩

/-!
## The decimal
-/

theorem exists_make? (negative : Bool) {m s : Nat} (hm : m < 2 ^ 96) (hs : s ≤ 28) :
    exists d, make? negative m s = some d ∧
      d.value = (if negative then -1 else 1) * ((m : ℚ) / 10 ^ s) := by
  refine ⟨⟨negative, m, s, hm, hs⟩, by rw [make?, dif_pos ⟨hm, hs⟩], ?_⟩
  rw [value, coefficient]
  cases negative with
  | false => simp
  | true => simp [neg_div]

def cut? (negative : Bool) (m : Nat) (e : Int) : Option Decimal :=
  (appendZeros? m e.toNat).bind fun m =>
    let (m, s) := if e < -28 then dropBeyond m (-e - 28).toNat else (m, (-e).toNat)
    let (m, s) := dropExcess m s
    let (m, s) := stripZeros m s
    make? negative m s

theorem cut?_eq (negative : Bool) (m : Nat) {e : ℤ} (he : e ≤ 0) :
    exists t s, t ≤ m ∧ s ≤ 28 ∧ |(t : ℚ) / 10 ^ s - m * 10 ^ e| ≤ 1 / 10 ^ 28 ∧
      cut? negative m e = make? negative
        (stripZeros (dropExcess t s).1 (dropExcess t s).2).1
        (stripZeros (dropExcess t s).1 (dropExcess t s).2).2 := by
  have hnone : appendZeros? m e.toNat = some m := by
    rw [Int.toNat_of_nonpos he]
    rfl
  have hvalue : forall k : Nat, e = -k -> (m : ℚ) * 10 ^ e = m / 10 ^ k := by
    intro k hk
    rw [hk, zpow_neg, zpow_natCast, div_eq_mul_inv]
  by_cases hbeyond : e < -28
  · rcases dropBeyond_spec m (-e - 28).toNat with ⟨hle, hscale, hclose⟩
    refine ⟨_, _, hle, hscale, ?_, ?_⟩
    · rw [hvalue (28 + (-e - 28).toNat) (by omega)]
      apply hclose.trans
      have hpos : (0 : ℚ) < 1 / 10 ^ (28 + (-e - 28).toNat) := by positivity
      linarith
    · rw [cut?, hnone, Option.bind_some, if_pos hbeyond]
  · refine ⟨m, (-e).toNat, le_rfl, by omega, ?_, ?_⟩
    · rw [hvalue (-e).toNat (by omega), sub_self, abs_zero]
      positivity
    · rw [cut?, hnone, Option.bind_some, if_neg hbeyond]

/-- Fifteen digits are kept, and no more than 28 of them behind the point. -/
theorem exists_cut? (negative : Bool) {m : Nat} (hm : m < 2 ^ 96) {e : ℤ} (he : e ≤ 0) :
    exists d, cut? negative m e = some d ∧ forall p : Nat, p ≤ 28 ->
      (p = 0 ∨ (m : ℚ) * 10 ^ e * 10 ^ p + 2 ≤ 2 ^ 52) ->
        |d.value - (if negative then -1 else 1) * (m * 10 ^ e)| ≤ 1 / 10 ^ p + 1 / 10 ^ 28 := by
  rcases cut?_eq negative m he with ⟨t, s, hle, hscale, hclose, hcut⟩
  rcases dropExcess_spec t s with ⟨hexcess, hexcessScale, _⟩
  rcases stripZeros_spec (dropExcess t s).1 (dropExcess t s).2 with ⟨hstrip, hstripScale, hsame⟩
  have hfits := lt_of_le_of_lt (hstrip.trans (hexcess.trans hle)) hm
  have hplace := hstripScale.trans (hexcessScale.trans hscale)
  rcases exists_make? negative hfits hplace with ⟨d, hd, hvalue⟩
  refine ⟨d, hcut.trans hd, fun p hp hshort => ?_⟩
  have hplaces : (1 : ℚ) / 10 ^ 28 * 10 ^ p ≤ 1 := by
    rw [one_div_mul_eq_div, div_le_one (by positivity)]
    gcongr
    norm_num
  have hnear : |((dropExcess t s).1 : ℚ) / 10 ^ (dropExcess t s).2 - t / 10 ^ s| ≤ 1 / 10 ^ p := by
    apply dropExcess_near
    apply hshort.imp_right
    intro hroom
    have hupper := mul_le_mul_of_nonneg_right (abs_le.mp hclose).2
      (by positivity : (0 : ℚ) ≤ 10 ^ p)
    rw [sub_mul] at hupper
    linarith
  rw [hvalue, hsame, ← mul_sub, abs_mul, Binary64.abs_sign, one_mul]
  exact (abs_sub_le _ ((t : ℚ) / 10 ^ s) _).trans (add_le_add hnear hclose)

theorem cut?_zero (negative : Bool) (m : Nat) : cut? negative m 0 = make? negative m 0 := rfl

section OfBinary64

variable {x : Binary64} (hfinite : x.IsFinite)

include hfinite

theorem ofBinary64?_eq (hnonzero : x.significand ≠ 0) : ofBinary64? x =
    (if x.exponent < 0 then some (tradeHalves x.significand x.exponent (-x.exponent).toNat)
      else tradeDoubles? x.significand x.exponent x.exponent.toNat).bind
        fun traded => cut? x.negative traded.1 traded.2 := by
  rw [ofBinary64?, if_neg (not_not.mpr hfinite), if_neg hnonzero]
  rfl

theorem ofBinary64?_of_significand_eq_zero (hzero : x.significand = 0) :
    x.value = 0 ∧ exists d, ofBinary64? x = some d ∧ d.value = 0 := by
  rcases exists_make? x.negative (m := 0) (s := 0) (by decide) (by decide) with ⟨d, hd, hvalue⟩
  constructor
  · simp [Binary64.value, hzero]
  · refine ⟨d, ?_, ?_⟩
    · rw [ofBinary64?, if_neg (not_not.mpr hfinite), if_pos hzero, hd]
    · rw [hvalue]
      simp

theorem ofBinary64?_of_whole (hwhole : 0 ≤ x.exponent) :
    (|x.value| < 2 ^ 96 -> exists d, ofBinary64? x = some d ∧ d.value = x.value) ∧
      (2 ^ 96 ≤ |x.value| -> ofBinary64? x = none) := by
  by_cases hzero : x.significand = 0
  · rcases ofBinary64?_of_significand_eq_zero hfinite hzero with ⟨hvalue, d, hd, hdvalue⟩
    rw [hvalue, abs_zero]
    exact ⟨fun _ => ⟨d, hd, hdvalue⟩, fun h => absurd h (by norm_num)⟩
  · rcases Int.eq_ofNat_of_zero_le hwhole with ⟨n, hn⟩
    have hsize : |x.value| = (x.significand * 2 ^ n : ℕ) := by
      rw [x.abs_value, hn]
      push_cast
      rw [zpow_natCast]
    have hdigits : x.significand < 2 ^ 96 := lt_trans x.significand_lt (by decide)
    rw [ofBinary64?_eq hfinite hzero, if_neg (by omega), hn, Int.toNat_natCast,
      tradeDoubles?_eq hdigits, hsize]
    constructor
    · intro hlt
      have hfits : x.significand * 2 ^ n < 2 ^ 96 := by exact_mod_cast hlt
      rcases exists_make? x.negative hfits (Nat.zero_le 28) with ⟨d, hd, hvalue⟩
      refine ⟨d, ?_, ?_⟩
      · rw [if_pos hfits, Option.bind_some, cut?_zero, hd]
      · rw [hvalue, Binary64.value, hn]
        push_cast
        rw [zpow_natCast, pow_zero, div_one]
    · intro hge
      have hlarge : 2 ^ 96 ≤ x.significand * 2 ^ n := by exact_mod_cast hge
      rw [if_neg (not_lt.mpr hlarge), Option.bind_none]

omit hfinite in
theorem abs_value_lt_of_exponent_neg (hfraction : x.exponent < 0) : |x.value| < 2 ^ 52 := by
  have hdigits : (x.significand : ℚ) < 2 ^ 53 := by exact_mod_cast x.significand_lt
  rw [x.abs_value]
  calc (x.significand : ℚ) * 2 ^ x.exponent < 2 ^ 53 * 2 ^ x.exponent := by gcongr
    _ ≤ 2 ^ 53 * 2 ^ (-1 : ℤ) := by
      gcongr
      · exact one_le_two
      · omega
    _ = 2 ^ 52 := by norm_num

theorem ofBinary64?_of_fraction (hfraction : x.exponent < 0) :
    exists d, ofBinary64? x = some d ∧ forall p : Nat, p ≤ 27 ->
      (p = 0 ∨ |x.value| * 10 ^ p + 2 ≤ 2 ^ 52) -> |d.value - x.value| ≤ 2 / 10 ^ p := by
  by_cases hzero : x.significand = 0
  · rcases ofBinary64?_of_significand_eq_zero hfinite hzero with ⟨hvalue, d, hd, hdvalue⟩
    refine ⟨d, hd, fun p _ _ => ?_⟩
    rw [hvalue, hdvalue, sub_zero, abs_zero]
    positivity
  · have hdigits : x.significand < 2 ^ 96 := lt_trans x.significand_lt (by decide)
    rcases tradeHalves_spec hdigits x.exponent (-x.exponent).toNat with
      ⟨hfits, hexponent, hupper, hlower⟩
    rw [ofBinary64?_eq hfinite hzero, if_pos hfraction, Option.bind_some]
    generalize tradeHalves x.significand x.exponent (-x.exponent).toNat = traded at *
    have hvalue : (x.significand : ℚ) * 10 ^ x.exponent * 5 ^ (-x.exponent).toNat = |x.value| := by
      rcases Int.eq_ofNat_of_zero_le (by omega : 0 ≤ -x.exponent) with ⟨k, hk⟩
      rw [x.abs_value, (by omega : x.exponent = -(k : ℤ)), neg_neg, Int.toNat_natCast, zpow_neg,
        zpow_neg, zpow_natCast, zpow_natCast, (by norm_num : (10 : ℚ) = 2 * 5), mul_pow]
      field_simp
    rw [hvalue] at hupper hlower
    rcases exists_cut? x.negative hfits (by omega : traded.2 ≤ 0) with ⟨d, hd, hnear⟩
    refine ⟨d, hd, fun p hp hshort => ?_⟩
    have hpos : (0 : ℚ) < 1 / 10 ^ p := by positivity
    have hroom : |x.value| ≤ 2 ^ 52 * (1 / 10 ^ p) := by
      rw [mul_one_div, le_div_iff₀ (by positivity)]
      rcases hshort with hnone | hsome
      · rw [hnone, pow_zero, mul_one]
        exact (abs_value_lt_of_exponent_neg hfraction).le
      · linarith
    have hloss : ((-x.exponent).toNat : ℚ) * (5 / 2 ^ 96) * |x.value| ≤ 1 / 2 * (1 / 10 ^ p) := by
      have hsteps : ((-x.exponent).toNat : ℚ) ≤ 1074 := by
        have hleast := x.le_exponent
        exact_mod_cast (by omega : (-x.exponent).toNat ≤ 1074)
      calc ((-x.exponent).toNat : ℚ) * (5 / 2 ^ 96) * |x.value|
          ≤ 1074 * (5 / 2 ^ 96) * (2 ^ 52 * (1 / 10 ^ p)) := by gcongr
        _ ≤ 1 / 2 * (1 / 10 ^ p) := by linarith
    have hbeyond : (1 : ℚ) / 10 ^ 28 ≤ 1 / 10 * (1 / 10 ^ p) := by
      rw [one_div_mul_one_div, ← pow_succ']
      gcongr
      · norm_num
      · omega
    have hdigits := hnear p (by omega) (hshort.imp_right fun hsome => by
      have hmul := mul_le_mul_of_nonneg_right hupper (by positivity : (0 : ℚ) ≤ 10 ^ p)
      linarith)
    have htraded : |(if x.negative then -1 else 1) * ((traded.1 : ℚ) * 10 ^ traded.2) - x.value| ≤
        1 / 2 * (1 / 10 ^ p) := by
      rw [Binary64.value, ← mul_sub, abs_mul, ← x.abs_value, Binary64.abs_sign, one_mul, abs_le]
      constructor <;> linarith
    apply ((abs_sub_le _ _ _).trans (add_le_add hdigits htraded)).trans
    rw [div_eq_mul_one_div 2]
    linarith

theorem ofBinary64?_near (hsize : |x.value| < 2 ^ 96) :
    exists d, ofBinary64? x = some d ∧ forall p : Nat, p ≤ 27 ->
      (p = 0 ∨ |x.value| * 10 ^ p + 2 ≤ 2 ^ 52) -> |d.value - x.value| ≤ 2 / 10 ^ p := by
  rcases lt_or_ge x.exponent 0 with hfraction | hwhole
  · exact ofBinary64?_of_fraction hfinite hfraction
  · rcases (ofBinary64?_of_whole hfinite hwhole).1 hsize with ⟨d, hd, hvalue⟩
    refine ⟨d, hd, fun p _ _ => ?_⟩
    rw [hvalue, sub_self, abs_zero]
    positivity

omit hfinite in
theorem ofBinary64?_eq_none_iff :
    ofBinary64? x = none <-> ¬ x.IsFinite ∨ 2 ^ 96 ≤ |x.value| := by
  by_cases hx : x.IsFinite
  · rcases lt_or_ge |x.value| (2 ^ 96) with hsmall | hlarge
    · rcases ofBinary64?_near hx hsmall with ⟨d, hd, _⟩
      simp [hd, hx, hsmall]
    · rcases lt_or_ge x.exponent 0 with hfraction | hwhole
      · have hbelow := abs_value_lt_of_exponent_neg hfraction
        linarith
      · simp [(ofBinary64?_of_whole hx hwhole).2 hlarge, hlarge]
  · simp [ofBinary64?, hx]

end OfBinary64

end Decimal

end CurrencyWallet
