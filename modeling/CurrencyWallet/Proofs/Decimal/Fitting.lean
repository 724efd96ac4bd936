import CurrencyWallet.Proofs.Decimal.Value

/-!
# Fitting digits

Fitting drops digits that have no room and rounds once, or twice when the first rounding
carries. The main statements say that no decimal lies between an exact number and what
becomes of it: whatever decimal bounds the exact number bounds the fitted one, too. Numbers
that need no more than 96 bits are not changed at all.
-/

namespace CurrencyWallet

/-!
## Division with rounding
-/

theorem divHalfEven_le {n d q : Nat} (hd : 0 < d) (h : n ≤ q * d) :
    divHalfEven n d ≤ q := by
  have hsum : d * (n / d) + n % d = n := Nat.div_add_mod n d
  have hfloor : n / d ≤ q := Nat.div_le_of_le_mul (by rwa [Nat.mul_comm])
  -- The quotient only goes up when there is a remainder, so it stays below an exact bound.
  have hup : 0 < n % d -> n / d + 1 ≤ q := by
    intro hrest
    rcases Nat.lt_or_ge (n / d) q with hlt | hge
    · exact hlt
    · have hq : n / d = q := Nat.le_antisymm hfloor hge
      rw [hq, Nat.mul_comm] at hsum
      omega
  unfold divHalfEven
  dsimp only
  split
  · exact hfloor
  · split
    · exact hup (by omega)
    · split
      · exact hfloor
      · exact hup (by omega)

theorem le_divHalfEven {n d q : Nat} (hd : 0 < d) (h : q * d ≤ n) :
    q ≤ divHalfEven n d := by
  have hfloor : q ≤ n / d := (Nat.le_div_iff_mul_le hd).mpr h
  unfold divHalfEven
  dsimp only
  split
  · exact hfloor
  · split
    · omega
    · split
      · exact hfloor
      · omega

theorem two_mul_le_divHalfEven {n d : Nat} (hd : 0 < d) :
    2 * n ≤ 2 * (divHalfEven n d * d) + d := by
  have hsum : d * (n / d) + n % d = n := Nat.div_add_mod n d
  have hrest : n % d < d := Nat.mod_lt n hd
  unfold divHalfEven
  dsimp only
  split
  · rw [Nat.mul_comm (n / d)]
    omega
  · split
    · rw [Nat.add_mul, Nat.mul_comm (n / d)]
      omega
    · split
      · rw [Nat.mul_comm (n / d)]
        omega
      · rw [Nat.add_mul, Nat.mul_comm (n / d)]
        omega

theorem two_mul_divHalfEven_le {n d : Nat} (hd : 0 < d) :
    2 * (divHalfEven n d * d) ≤ 2 * n + d := by
  have hsum : d * (n / d) + n % d = n := Nat.div_add_mod n d
  have hrest : n % d < d := Nat.mod_lt n hd
  unfold divHalfEven
  dsimp only
  split
  · rw [Nat.mul_comm (n / d)]
    omega
  · split
    · rw [Nat.add_mul, Nat.mul_comm (n / d)]
      omega
    · split
      · rw [Nat.mul_comm (n / d)]
        omega
      · rw [Nat.add_mul, Nat.mul_comm (n / d)]
        omega

/-- An even number is reached from the midpoint below it on. -/
theorem le_divHalfEven_iff_of_even {n d q : Nat} (hd : 0 < d) (heven : q % 2 = 0) :
    q ≤ divHalfEven n d <-> 2 * (q * d) ≤ 2 * n + d := by
  constructor
  · intro h
    have hgrow : q * d ≤ divHalfEven n d * d := Nat.mul_le_mul_right d h
    have hupper := two_mul_divHalfEven_le (n := n) hd
    omega
  · intro h
    have hsum : n / d * d + n % d = n := Nat.div_add_mod' n d
    have hrest : n % d < d := Nat.mod_lt n hd
    have hnear : q ≤ n / d + 1 := by
      by_contra hmore
      have hgrow : (n / d + 2) * d ≤ q * d := Nat.mul_le_mul_right d (by omega)
      rw [Nat.add_mul] at hgrow
      omega
    unfold divHalfEven
    dsimp only
    split
    next hbelow =>
      by_contra hmore
      have hnext : q = n / d + 1 := by omega
      rw [hnext, Nat.add_mul, Nat.one_mul] at h
      omega
    · split
      · exact hnear
      · split
        · omega
        · exact hnear

namespace Decimal

/-!
## The number of digits dropped
-/

theorem div_pow_digitsTooMany_lt (m : Nat) : m / 10 ^ digitsTooMany m < 2 ^ 96 := by
  fun_induction digitsTooMany m with
  | case1 m hlt =>
      simpa using hlt
  | case2 m hge ih =>
      rwa [Nat.pow_succ', ← Nat.div_div_eq_div_mul]

theorem le_div_pow_of_digitsTooMany {m k : Nat} (h : digitsTooMany m = k + 1) :
    2 ^ 96 ≤ m / 10 ^ k := by
  induction k generalizing m with
  | zero =>
      rw [digitsTooMany] at h
      split at h
      · cases h
      · rw [Nat.pow_zero, Nat.div_one]
        omega
  | succ k ih =>
      rw [digitsTooMany] at h
      split at h
      · cases h
      · rw [show 10 ^ (k + 1) = 10 * 10 ^ k from Nat.pow_succ', ← Nat.div_div_eq_div_mul]
        exact ih (Nat.succ.inj h)

/-- How many digits fitting drops from `m`, of which `s` are fractional. -/
def surplus (m s : Nat) : Nat :=
  (s - 28) + digitsTooMany (m / 10 ^ (s - 28))

theorem div_pow_surplus_lt (m s : Nat) : m / 10 ^ surplus m s < 2 ^ 96 := by
  rw [surplus, Nat.pow_add, ← Nat.div_div_eq_div_mul]
  exact div_pow_digitsTooMany_lt _

/-- What fits without the digits behind the 28th loses only those. -/
theorem surplus_eq_of_lt {m s : Nat} (h : m < 2 ^ 96 * 10 ^ (s - 28)) : surplus m s = s - 28 := by
  have hshort : m / 10 ^ (s - 28) < 2 ^ 96 := Nat.div_lt_of_lt_mul (by rwa [Nat.mul_comm])
  rw [surplus, digitsTooMany, if_pos hshort, Nat.add_zero]

theorem long_of_surplus {m s : Nat} (h : s - 28 < surplus m s) :
    exists k, surplus m s = k + 1 ∧ 2 ^ 96 * 10 ^ k ≤ m := by
  have hpos : 0 < digitsTooMany (m / 10 ^ (s - 28)) := by
    unfold surplus at h
    omega
  rcases Nat.exists_eq_succ_of_ne_zero (Nat.ne_of_gt hpos) with ⟨j, hj⟩
  have hlong : 2 ^ 96 ≤ m / 10 ^ (s - 28) / 10 ^ j := le_div_pow_of_digitsTooMany hj
  refine ⟨(s - 28) + j, ?_, ?_⟩
  · rw [surplus, hj]
    omega
  · rw [Nat.div_div_eq_div_mul, ← Nat.pow_add] at hlong
    exact (Nat.le_div_iff_mul_le (Nat.pow_pos (by decide))).mp hlong

theorem surplus_minimal {m s t : Nat} (ht : t ≤ 28) (hts : t ≤ s) (h : s - surplus m s < t) :
    exists k, surplus m s = k + 1 ∧ s - t ≤ k ∧ 2 ^ 96 * 10 ^ k ≤ m := by
  rcases long_of_surplus (by omega : s - 28 < surplus m s) with ⟨k, hk, hlong⟩
  exact ⟨k, hk, by omega, hlong⟩

/-- Rounding what is left may carry to the 97th bit, but not beyond. -/
theorem divHalfEven_surplus_le (m s : Nat) : divHalfEven m (10 ^ surplus m s) ≤ 2 ^ 96 := by
  apply divHalfEven_le (Nat.pow_pos (by decide))
  have hlt := div_pow_surplus_lt m s
  rw [Nat.div_lt_iff_lt_mul (Nat.pow_pos (by decide))] at hlt
  exact Nat.le_of_lt hlt

/-!
## What fitting gives
-/

theorem ofParts?_eq_some_iff {negative : Bool} {m s : Nat} {r : Decimal} :
    ofParts? negative m s = some r <->
      r.negative = (negative && m != 0) ∧ r.mantissa = m ∧ r.scale = s := by
  unfold ofParts? make?
  constructor
  · intro h
    split at h
    · cases h
      exact ⟨rfl, rfl, rfl⟩
    · cases h
  · intro h
    rcases h with ⟨hneg, hm, hs⟩
    have hroom : m < 2 ^ 96 ∧ s ≤ 28 := by
      rw [← hm, ← hs]
      exact ⟨r.mantissa_lt, r.scale_le⟩
    rw [dif_pos hroom]
    cases r
    simp only at hneg hm hs
    subst hneg hm hs
    rfl

def magnitudeAt (d : Decimal) (scale : Nat) : Nat :=
  d.mantissa * 10 ^ (scale - d.scale)

theorem coefficientAt_of_negative {d : Decimal} (h : d.negative = true) (scale : Nat) :
    d.coefficientAt scale = -(d.magnitudeAt scale : Int) := by
  unfold coefficientAt coefficient magnitudeAt
  rw [if_pos h]
  push_cast
  ring

theorem coefficientAt_of_nonnegative {d : Decimal} (h : d.negative = false) (scale : Nat) :
    d.coefficientAt scale = (d.magnitudeAt scale : Int) := by
  unfold coefficientAt coefficient magnitudeAt
  rw [if_neg (by simp [h])]
  push_cast
  ring

/-- What is left of `2 ^ 96` after one more digit is dropped. -/
def carried : Nat :=
  divHalfEven (2 ^ 96) 10

/-- The digits of a fitted number: one rounding, and a second one after a carry to the 97th
bit. -/
theorem fit?_cases {negative : Bool} {m s : Nat} {r : Decimal}
    (h : fit? negative m s = some r) :
    surplus m s ≤ s ∧ r.negative = (negative && r.mantissa != 0) ∧
      ((r.mantissa = divHalfEven m (10 ^ surplus m s) ∧ r.scale = s - surplus m s) ∨
        (divHalfEven m (10 ^ surplus m s) = 2 ^ 96 ∧ surplus m s + 1 ≤ s ∧
          r.mantissa = carried ∧ r.scale = s - surplus m s - 1)) := by
  unfold fit? at h
  change (if s < surplus m s then none else _) = some r at h
  split at h
  · cases h
  next hle =>
    refine ⟨Nat.le_of_not_lt hle, ?_⟩
    dsimp only at h
    split at h
    · rcases ofParts?_eq_some_iff.mp h with ⟨hneg, hm, hs⟩
      rw [hm]
      exact ⟨hneg, Or.inl ⟨rfl, hs⟩⟩
    next hbig =>
      split at h
      · cases h
      next hroom =>
        have hfull : divHalfEven m (10 ^ surplus m s) = 2 ^ 96 :=
          Nat.le_antisymm (divHalfEven_surplus_le m s) (Nat.le_of_not_lt hbig)
        rcases ofParts?_eq_some_iff.mp h with ⟨hneg, hm, hs⟩
        have hcarried : r.mantissa = carried := by
          change r.mantissa = divHalfEven (divHalfEven m (10 ^ surplus m s)) 10 at hm
          rwa [hfull] at hm
        rw [hm]
        rw [hm] at hcarried
        have hspare : surplus m s + 1 ≤ s := by
          change ¬ s - surplus m s = 0 at hroom
          omega
        exact ⟨hneg, Or.inr ⟨hfull, hspare, hcarried, hs⟩⟩

theorem exists_fit? {m s : Nat} (negative : Bool) (h : divHalfEven m (10 ^ s) < 2 ^ 96) :
    exists r, fit? negative m s = some r := by
  have hle : surplus m s ≤ s := by
    by_contra hlt
    rcases long_of_surplus (by omega : s - 28 < surplus m s) with ⟨k, hk, hlong⟩
    have hgrow : 2 ^ 96 * 10 ^ s ≤ 2 ^ 96 * 10 ^ k :=
      Nat.mul_le_mul_left _ (Nat.pow_le_pow_right (by decide) (by omega))
    have hwhole := le_divHalfEven (Nat.pow_pos (by decide)) (Nat.le_trans hgrow hlong)
    omega
  have hscale : s - surplus m s ≤ 28 := by
    unfold surplus
    omega
  have hparts : forall {n t : Nat}, n < 2 ^ 96 -> t ≤ 28 -> exists r, ofParts? negative n t = some r :=
    fun {n t} hn ht => ⟨⟨negative && n != 0, n, t, hn, ht⟩,
      ofParts?_eq_some_iff.mpr ⟨rfl, rfl, rfl⟩⟩
  unfold fit?
  change exists r, (if s < surplus m s then none else _) = some r
  rw [if_neg (Nat.not_lt.mpr hle)]
  dsimp only
  split
  next hlt =>
    exact hparts hlt hscale
  next hcarry =>
    change ¬ divHalfEven m (10 ^ surplus m s) < 2 ^ 96 at hcarry
    -- Without a fractional digit to spare there would have been no carry.
    have hspare : s - surplus m s ≠ 0 := by
      intro hnone
      have hall : surplus m s = s := by omega
      rw [hall] at hcarry
      exact hcarry h
    have hup := divHalfEven_surplus_le m s
    have hrest : divHalfEven (divHalfEven m (10 ^ surplus m s)) 10 ≤ 2 ^ 95 :=
      divHalfEven_le (by decide) (by omega)
    change exists r, (if s - surplus m s = 0 then none
      else ofParts? negative (divHalfEven (divHalfEven m (10 ^ surplus m s)) 10)
        (s - surplus m s - 1)) = some r
    rw [if_neg hspare]
    exact hparts (by omega) (by omega)

theorem divHalfEven_lt_of_fit? {negative : Bool} {m s : Nat} {r : Decimal}
    (h : fit? negative m s = some r) : divHalfEven m (10 ^ s) < 2 ^ 96 := by
  rcases fit?_cases h with ⟨hle, _hneg, hcase⟩
  rcases Nat.lt_or_ge (surplus m s) s with hspare | hall
  · -- What has room with a fractional digit has no more than 93 bits without it.
    have hshort := div_pow_surplus_lt m s
    have hgrow : 10 ^ (surplus m s + 1) ≤ 10 ^ s := Nat.pow_le_pow_right (by decide) hspare
    rw [Nat.div_lt_iff_lt_mul (Nat.pow_pos (by decide))] at hshort
    rw [Nat.pow_succ] at hgrow
    have hwhole : divHalfEven m (10 ^ s) ≤ 2 ^ 95 :=
      divHalfEven_le (Nat.pow_pos (by decide)) (by omega)
    omega
  · rw [Nat.le_antisymm hle hall] at hcase
    rcases hcase with ⟨hm, _hs⟩ | ⟨_hfull, hspare, _hm, _hs⟩
    · rw [← hm]
      exact r.mantissa_lt
    · omega

theorem exists_fit?_iff {m s : Nat} {negative : Bool} :
    (exists r, fit? negative m s = some r) <-> divHalfEven m (10 ^ s) < 2 ^ 96 := by
  constructor
  · intro h
    rcases h with ⟨r, hr⟩
    exact divHalfEven_lt_of_fit? hr
  · exact exists_fit? negative

/-!
## No decimal is crossed
-/

theorem magnitudeAt_eq_of_scale {d : Decimal} {s k : Nat} (hk : k ≤ s) (h : d.scale = s - k) :
    d.magnitudeAt s = d.mantissa * 10 ^ k := by
  rw [magnitudeAt, h, Nat.sub_sub_self hk]

theorem magnitudeAt_of_fit? {negative : Bool} {m s : Nat} {r : Decimal}
    (h : fit? negative m s = some r) :
    (divHalfEven m (10 ^ surplus m s) < 2 ^ 96 ∧
        r.magnitudeAt s = divHalfEven m (10 ^ surplus m s) * 10 ^ surplus m s) ∨
      (divHalfEven m (10 ^ surplus m s) = 2 ^ 96 ∧
        r.magnitudeAt s = carried * 10 ^ (surplus m s + 1)) := by
  rcases fit?_cases h with ⟨hle, _hneg, hcase⟩
  rcases hcase with ⟨hm, hs⟩ | ⟨hfull, hspare, hm, hs⟩
  · apply Or.inl
    constructor
    · rw [← hm]
      exact r.mantissa_lt
    · rw [magnitudeAt_eq_of_scale hle hs, hm]
  · apply Or.inr
    constructor
    · exact hfull
    · rw [magnitudeAt_eq_of_scale hspare hs, hm]

theorem pow_sub_eq_mul {s t k : Nat} (hk : k ≤ s) (ht : t ≤ s - k) :
    10 ^ (s - t) = 10 ^ (s - k - t) * 10 ^ k := by
  have hsum : s - t = s - k - t + k := by
    omega
  rw [hsum, Nat.pow_add]

theorem magnitudeAt_le_of_fit? {negative : Bool} {m s n t : Nat} {r : Decimal}
    (h : fit? negative m s = some r) (hn : n < 2 ^ 96) (ht : t ≤ 28) (hts : t ≤ s)
    (hle : m ≤ n * 10 ^ (s - t)) :
    r.magnitudeAt s ≤ n * 10 ^ (s - t) := by
  rcases Nat.lt_or_ge (s - surplus m s) t with hshort | hroom
  · -- With `t` fractional digits there is room for `m`, so none of them can be dropped.
    exfalso
    rcases surplus_minimal ht hts hshort with ⟨k, _hk, hsk, hlong⟩
    have hbound : n * 10 ^ (s - t) ≤ n * 10 ^ k :=
      Nat.mul_le_mul_left n (Nat.pow_le_pow_right (by decide) hsk)
    have hlt : n * 10 ^ k < 2 ^ 96 * 10 ^ k :=
      Nat.mul_lt_mul_of_pos_right hn (Nat.pow_pos (by decide))
    omega
  · rw [pow_sub_eq_mul (fit?_cases h).left hroom, ← Nat.mul_assoc] at hle ⊢
    have hrounded : divHalfEven m (10 ^ surplus m s) ≤ n * 10 ^ (s - surplus m s - t) :=
      divHalfEven_le (Nat.pow_pos (by decide)) hle
    rcases magnitudeAt_of_fit? h with ⟨_hlt, hmag⟩ | ⟨hfull, hmag⟩
    · rw [hmag]
      exact Nat.mul_le_mul_right _ hrounded
    · -- A carry means that the bound is beyond 96 bits at this scale, so it ends in a zero.
      rw [hfull] at hrounded
      have hspare : s - surplus m s - t ≠ 0 := by
        intro hzero
        rw [hzero, Nat.pow_zero, Nat.mul_one] at hrounded
        omega
      rcases Nat.exists_eq_add_one_of_ne_zero hspare with ⟨j, hj⟩
      rw [hj, pow_succ 10 j, ← Nat.mul_assoc] at hrounded ⊢
      have hcarried : carried ≤ n * 10 ^ j := divHalfEven_le (by decide) hrounded
      calc
        r.magnitudeAt s = carried * (10 * 10 ^ surplus m s) := by
          rw [hmag, pow_succ' 10 (surplus m s)]
        _ ≤ n * 10 ^ j * (10 * 10 ^ surplus m s) := Nat.mul_le_mul_right _ hcarried
        _ = n * 10 ^ j * 10 * 10 ^ surplus m s := by
          rw [Nat.mul_assoc (n * 10 ^ j)]

theorem le_magnitudeAt_of_fit? {negative : Bool} {m s n t : Nat} {r : Decimal}
    (h : fit? negative m s = some r) (hn : n < 2 ^ 96) (ht : t ≤ 28) (hts : t ≤ s)
    (hle : n * 10 ^ (s - t) ≤ m) :
    n * 10 ^ (s - t) ≤ r.magnitudeAt s := by
  have hpos : 0 < 10 ^ surplus m s := Nat.pow_pos (by decide)
  have hrounded : divHalfEven m (10 ^ surplus m s) * 10 ^ surplus m s ≤ r.magnitudeAt s := by
    rcases magnitudeAt_of_fit? h with ⟨_hlt, hmag⟩ | ⟨hfull, hmag⟩
    · exact Nat.le_of_eq hmag.symm
    · rw [hmag, hfull, pow_succ' 10 (surplus m s), ← Nat.mul_assoc]
      exact Nat.mul_le_mul_right _ (by decide)
  apply Nat.le_trans _ hrounded
  rcases Nat.lt_or_ge (s - surplus m s) t with hshort | hroom
  · -- What is left has at least 96 bits at the scale before the last digit was dropped.
    rcases surplus_minimal ht hts hshort with ⟨k, hk, hsk, hlong⟩
    have hhalf := two_mul_le_divHalfEven (n := m) hpos
    have hbound : n * 10 ^ (s - t) ≤ n * 10 ^ k :=
      Nat.mul_le_mul_left n (Nat.pow_le_pow_right (by decide) hsk)
    have hlt : n * 10 ^ k ≤ (2 ^ 96 - 1) * 10 ^ k := Nat.mul_le_mul_right _ (by omega)
    rw [hk, pow_succ' 10 k, ← Nat.mul_assoc (divHalfEven _ _)] at hhalf ⊢
    have hkept : 2 ^ 96 ≤ divHalfEven m (10 * 10 ^ k) * 10 + 5 := by
      apply Nat.le_of_mul_le_mul_right _ (Nat.pow_pos (by decide) : 0 < 10 ^ k)
      rw [Nat.add_mul]
      omega
    have hdigits : 2 ^ 96 - 1 ≤ divHalfEven m (10 * 10 ^ k) * 10 := by
      omega
    exact Nat.le_trans hbound (Nat.le_trans hlt (Nat.mul_le_mul_right _ hdigits))
  · rw [pow_sub_eq_mul (fit?_cases h).left hroom, ← Nat.mul_assoc] at hle ⊢
    exact Nat.mul_le_mul_right _ (le_divHalfEven hpos hle)

/-!
## Fitted whole numbers

A whole number of steps at a scale may be negative, and its sign is fitted with it.
-/

theorem scale_le_of_fit? {negative : Bool} {m s : Nat} {r : Decimal}
    (h : fit? negative m s = some r) : r.scale ≤ s := by
  rcases fit?_cases h with ⟨_hle, _hneg, hcase⟩
  rcases hcase with ⟨_hm, hs⟩ | ⟨_hfull, _hspare, _hm, hs⟩
  · omega
  · omega

theorem coefficientAt_of_fit? {negative : Bool} {m s : Nat} {r : Decimal}
    (h : fit? negative m s = some r) :
    r.coefficientAt s =
      if negative then -(r.magnitudeAt s : Int) else (r.magnitudeAt s : Int) := by
  have hsign : r.negative = (negative && r.mantissa != 0) := (fit?_cases h).right.left
  cases negative with
  | false =>
      rw [coefficientAt_of_nonnegative hsign]
      rfl
  | true =>
      by_cases hzero : r.mantissa = 0
      · have hnone : r.magnitudeAt s = 0 := by
          rw [magnitudeAt, hzero, Nat.zero_mul]
        rw [coefficientAt_of_nonnegative (by rw [hsign, hzero]; rfl), hnone]
        rfl
      · rw [coefficientAt_of_negative (by simp [hsign, hzero])]
        rfl

theorem fit?_le_coefficientAt {x : Int} {s : Nat} {r c : Decimal}
    (h : fit? (x < 0) x.natAbs s = some r) (hc : c.scale ≤ s) (hx : x ≤ c.coefficientAt s) :
    r.coefficientAt s ≤ c.coefficientAt s := by
  have hr := coefficientAt_of_fit? h
  cases hsign : c.negative with
  | false =>
      rw [coefficientAt_of_nonnegative hsign] at hx ⊢
      by_cases hneg : x < 0
      · rw [hr, if_pos (by simpa using hneg)]
        omega
      · have hle : x.natAbs ≤ c.mantissa * 10 ^ (s - c.scale) := by
          change x ≤ ((c.mantissa * 10 ^ (s - c.scale) : Nat) : Int) at hx
          omega
        have hmag := magnitudeAt_le_of_fit? h c.mantissa_lt c.scale_le hc hle
        rw [hr, if_neg (by simpa using hneg)]
        exact_mod_cast hmag
  | true =>
      rw [coefficientAt_of_negative hsign] at hx ⊢
      have hle : c.mantissa * 10 ^ (s - c.scale) ≤ x.natAbs := by
        change x ≤ -((c.mantissa * 10 ^ (s - c.scale) : Nat) : Int) at hx
        omega
      have hmag := le_magnitudeAt_of_fit? h c.mantissa_lt c.scale_le hc hle
      change c.magnitudeAt s ≤ r.magnitudeAt s at hmag
      by_cases hneg : x < 0
      · rw [hr, if_pos (by simpa using hneg)]
        omega
      · -- The bound is no more than zero and the number no less, so both are zero.
        have hzero : x.natAbs ≤ 0 * 10 ^ (s - 0) := by
          omega
        have hnone := magnitudeAt_le_of_fit? h (by decide) (by decide) (Nat.zero_le s) hzero
        rw [hr, if_neg (by simpa using hneg)]
        omega

theorem le_fit?_coefficientAt {x : Int} {s : Nat} {r c : Decimal}
    (h : fit? (x < 0) x.natAbs s = some r) (hc : c.scale ≤ s) (hx : c.coefficientAt s ≤ x) :
    c.coefficientAt s ≤ r.coefficientAt s := by
  have hr := coefficientAt_of_fit? h
  cases hsign : c.negative with
  | false =>
      rw [coefficientAt_of_nonnegative hsign] at hx ⊢
      have hle : c.mantissa * 10 ^ (s - c.scale) ≤ x.natAbs := by
        change ((c.mantissa * 10 ^ (s - c.scale) : Nat) : Int) ≤ x at hx
        omega
      have hmag := le_magnitudeAt_of_fit? h c.mantissa_lt c.scale_le hc hle
      have hneg : ¬ x < 0 := by
        omega
      rw [hr, if_neg (by simpa using hneg)]
      exact_mod_cast hmag
  | true =>
      rw [coefficientAt_of_negative hsign] at hx ⊢
      by_cases hneg : x < 0
      · have hle : x.natAbs ≤ c.mantissa * 10 ^ (s - c.scale) := by
          change -((c.mantissa * 10 ^ (s - c.scale) : Nat) : Int) ≤ x at hx
          omega
        have hmag := magnitudeAt_le_of_fit? h c.mantissa_lt c.scale_le hc hle
        change r.magnitudeAt s ≤ c.magnitudeAt s at hmag
        rw [hr, if_pos (by simpa using hneg)]
        omega
      · rw [hr, if_neg (by simpa using hneg)]
        omega

theorem fit?_of_lt {m s : Nat} (negative : Bool) (hm : m < 2 ^ 96) (hs : s ≤ 28) :
    fit? negative m s = ofParts? negative m s := by
  have hnone : surplus m s = 0 := by
    rw [surplus_eq_of_lt (by rwa [Nat.sub_eq_zero_of_le hs, Nat.pow_zero, Nat.mul_one]),
      Nat.sub_eq_zero_of_le hs]
  have hwhole : divHalfEven m (10 ^ surplus m s) = m := by
    simp [hnone, divHalfEven, Nat.mod_one]
  unfold fit?
  change (if s < surplus m s then none else
    if divHalfEven m (10 ^ surplus m s) < 2 ^ 96 then _ else _) = _
  rw [if_neg (by omega), if_pos (by rwa [hwhole])]
  change ofParts? _ (divHalfEven m (10 ^ surplus m s)) (s - surplus m s) = _
  rw [hwhole, hnone, Nat.sub_zero]

theorem fit?_eq_some_of_lt {x : Int} {s : Nat} (hx : x.natAbs < 2 ^ 96) (hs : s ≤ 28) :
    exists r, fit? (x < 0) x.natAbs s = some r ∧ r.scale = s ∧ r.coefficientAt s = x := by
  have hfit := fit?_of_lt (x < 0) hx hs
  have hparts : ofParts? (x < 0) x.natAbs s =
      some ⟨decide (x < 0) && x.natAbs != 0, x.natAbs, s, hx, hs⟩ :=
    ofParts?_eq_some_iff.mpr ⟨rfl, rfl, rfl⟩
  refine ⟨_, hfit.trans hparts, rfl, ?_⟩
  rw [coefficientAt_of_fit? (hfit.trans hparts), magnitudeAt_eq_of_scale (Nat.zero_le s) rfl,
    Nat.pow_zero, Nat.mul_one]
  by_cases hneg : x < 0
  · rw [if_pos (by simpa using hneg)]
    dsimp only
    omega
  · rw [if_neg (by simpa using hneg)]
    dsimp only
    omega

end Decimal

end CurrencyWallet
