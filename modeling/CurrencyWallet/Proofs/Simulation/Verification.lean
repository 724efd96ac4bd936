import CurrencyWallet.Proofs.Ledger.Booking
import CurrencyWallet.Simulation.Basic

/-!
# The check at the end

The check succeeds when all wallets are there and none has gone below zero and, after the
contention, when the first one holds what should be left. That is computed exactly as long as no
more has been taken than there was.
-/

namespace CurrencyWallet

theorem Desk.balances_eq_ok_iff {d : Desk} {user : UserId} {b : Balances} :
    d.balances user = .ok b <-> d.ledger.wallets.get? user = some b := by
  rw [balances, mapError_eq_ok_iff, Ledger.balances_eq_ok_iff]

theorem Balances.nonNegative_of_withinBounds {b : Balances} (h : b.WithinBounds) :
    b.NonNegative :=
  fun c _hc => Decimal.zero_le_value_iff.mp (h c).left

namespace Simulation

variable {s : Simulation} {user : UserId}

theorem checkWallet_eq_ok_iff :
    s.checkWallet user = .ok () <->
      exists b, s.desk.ledger.wallets.get? user = some b ∧ b.NonNegative := by
  unfold checkWallet
  constructor
  · intro h
    rcases bind_eq_ok_iff.mp h with ⟨b, hb, h⟩
    refine ⟨b, Desk.balances_eq_ok_iff.mp (mapError_eq_ok_iff.mp hb), ?_⟩
    by_contra hneg
    rw [if_neg hneg] at h
    cases h
  · intro h
    rcases h with ⟨b, hb, hnonneg⟩
    refine bind_eq_ok_iff.mpr ⟨b, mapError_eq_ok_iff.mpr (Desk.balances_eq_ok_iff.mpr hb), ?_⟩
    rw [if_pos hnonneg]
    rfl

theorem checkContention_eq_ok_iff :
    s.checkContention user = .ok () <->
      exists b expected, s.desk.ledger.wallets.get? user = some b ∧
        s.expectedBalance? = some expected ∧ b.usd.value = expected.value := by
  unfold checkContention
  constructor
  · intro h
    rcases bind_eq_ok_iff.mp h with ⟨b, hb, h⟩
    cases hexpected : s.expectedBalance? with
    | none =>
        rw [hexpected] at h
        cases h
    | some expected =>
        refine ⟨b, expected, Desk.balances_eq_ok_iff.mp (mapError_eq_ok_iff.mp hb), rfl, ?_⟩
        rw [← Decimal.sameValue_iff]
        by_contra hother
        rw [hexpected] at h
        dsimp only at h
        rw [if_neg hother] at h
        cases h
  · intro h
    rcases h with ⟨b, expected, hb, hexpected, hsame⟩
    refine bind_eq_ok_iff.mpr ⟨b, mapError_eq_ok_iff.mpr (Desk.balances_eq_ok_iff.mpr hb), ?_⟩
    rw [hexpected]
    dsimp only
    rw [if_pos (Decimal.sameValue_iff.mpr hsame)]
    rfl

theorem verify_eq_ok_iff :
    s.verify = .ok () <->
      (forall user, user ∈ s.wallets -> s.checkWallet user = .ok ()) ∧
        (s.scenario = .contention ->
          forall user, s.wallets.head? = some user -> s.checkContention user = .ok ()) := by
  rw [verify, ← forM_eq_ok_iff, bind_eq_ok_iff]
  constructor
  · intro h
    rcases h with ⟨_u, hwallets, hsecond⟩
    refine ⟨hwallets, ?_⟩
    intro hscenario user huser
    rw [hscenario, huser] at hsecond
    exact hsecond
  · intro h
    rcases h with ⟨hwallets, hsecond⟩
    refine ⟨(), hwallets, ?_⟩
    split
    next user hscenario huser =>
      exact hsecond hscenario user huser
    next =>
      rfl

/-!
## What should be left
-/

theorem value_contentionAmount : Scenario.contentionAmount.value = 10 := by
  norm_num [Decimal.value, Decimal.coefficient, Scenario.contentionAmount]

theorem exists_taken {k : Nat} (hk : k ≤ 10 ^ 17) :
    exists count taken, Decimal.make? false k 0 = some count ∧
      count.mul? Scenario.contentionAmount = some taken ∧ taken.scale ≤ Decimal.balancePlaces ∧
      taken.value = 10 * k := by
  have hcount : k < 2 ^ 96 ∧ 0 ≤ 28 := by omega
  let count : Decimal := ⟨false, k, 0, hcount.left, hcount.right⟩
  have hfits : count.mantissa * Scenario.contentionAmount.mantissa < 2 ^ 96 := by
    change k * 1000 < 2 ^ 96
    omega
  have hplaces : count.scale + Scenario.contentionAmount.scale = Decimal.amountPlaces := rfl
  rcases Decimal.mul?_exact hfits (by rw [hplaces]; decide) with ⟨taken, htaken, hscale, hvalue⟩
  rw [hplaces] at hscale
  refine ⟨count, taken, dif_pos hcount, htaken, Nat.le_trans hscale (by decide), ?_⟩
  rw [hvalue, value_contentionAmount, mul_comm]
  simp [Decimal.value, Decimal.coefficient, count]

theorem expectedBalance?_eq_sub? (hk : s.metrics.successful ≤ 10 ^ 17) :
    exists taken, s.expectedBalance? = s.initialBalance.sub? taken ∧
      taken.scale ≤ Decimal.balancePlaces ∧ taken.value = 10 * s.metrics.successful := by
  rcases exists_taken hk with ⟨count, taken, hcount, htaken, hscale, hvalue⟩
  refine ⟨taken, ?_, hscale, hvalue⟩
  rw [expectedBalance?, hcount]
  change (count.mul? Scenario.contentionAmount).bind _ = _
  rw [htaken, Option.bind_some]

theorem expectedBalance?_of_covered (hx : s.initialBalance.WithinBounds)
    (hcovered : 10 * s.metrics.successful ≤ s.initialBalance.value) :
    exists expected, s.expectedBalance? = some expected ∧
      expected.value = s.initialBalance.value - 10 * s.metrics.successful := by
  have hk : s.metrics.successful ≤ 10 ^ 17 := by
    have hlt : (10 * s.metrics.successful : ℚ) < 10 ^ 18 := lt_of_le_of_lt hcovered hx.right
    have hlt' : 10 * s.metrics.successful < 10 ^ 18 := by exact_mod_cast hlt
    omega
  rcases expectedBalance?_eq_sub? hk with ⟨taken, hexpected, hscale, hvalue⟩
  rw [← hvalue] at hcovered ⊢
  have hnonneg : 0 ≤ taken.value := by
    rw [hvalue]
    positivity
  rcases Decimal.sub?_of_debit hx hnonneg hscale hcovered with ⟨expected, hleft, _hbounds, hexact⟩
  exact ⟨expected, hexpected.trans hleft, hexact⟩

end Simulation

end CurrencyWallet
