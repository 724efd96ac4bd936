import CurrencyWallet.Simulation.Scenario

/-!
# What a scenario offers

A number that is drawn below a bound is below it, so every operation of a scenario is for one of
the wallets.
-/

namespace CurrencyWallet

variable {σ : Type} [WordSource σ]

/-!
## Draws
-/

theorem lt_of_drawNumber? {width : DrawWidth} {s s' : σ} {v : Nat}
    (h : drawNumber? width s = some (v, s')) : v < 2 ^ width.bits := by
  unfold drawNumber? at h
  cases width with
  | single =>
      dsimp only at h
      split at h
      next w _s _hw =>
        cases h
        exact w.toNat_lt
      next =>
        cases h
  | double =>
      dsimp only at h
      split at h
      next low _s _hlow =>
        split at h
        next high _s _hhigh =>
          cases h
          have hlow := low.toNat_lt
          have hhigh := high.toNat_lt
          change low.toNat + 2 ^ (32 : Nat) * high.toNat < 2 ^ (64 : Nat)
          omega
        next =>
          cases h
      next =>
        cases h

theorem lt_of_drawAccepted? {width : DrawWidth} {n v : Nat} {s s' : σ} (hn : 0 < n)
    (h : drawAccepted? width n s = some (v, s')) : v < n := by
  fun_induction drawAccepted? width n s with
  | case1 s hs =>
      cases h
  | case2 s u t hs hu =>
      cases h
      rw [Nat.div_lt_iff_lt_mul (Nat.pow_pos (by decide)), Nat.mul_comm n]
      exact Nat.mul_lt_mul_of_pos_right (lt_of_drawNumber? hs) hn
  | case3 s u t hs hu ih =>
      exact ih h

theorem lt_of_drawBelow? {width : DrawWidth} {n v : Nat} {s s' : σ}
    (h : drawBelow? width n s = some (v, s')) : v < n := by
  unfold drawBelow? at h
  split at h
  next =>
    cases h
  next hn =>
    exact lt_of_drawAccepted? (Nat.pos_of_ne_zero hn) h

/-!
## Operations
-/

namespace Scenario

theorem number_lt_of_nextOperation? {scenario : Scenario} {wallets number : Nat}
    {operation : Operation} {s s' : σ} (hwallets : 0 < wallets)
    (h : scenario.nextOperation? wallets s = some ((number, operation), s')) :
    number < wallets := by
  cases scenario with
  | contention =>
      cases h
      exact hwallets
  | random =>
      unfold nextOperation? at h
      simp only [Option.bind_eq_bind, Option.bind_eq_some_iff, Option.pure_def,
        Option.some.injEq, Prod.mk.injEq, Prod.exists] at h
      rcases h with ⟨number', _s₁, hnumber, _cents, _s₂, _hcents, _currency, _s₃, _hcurrency,
        _operation, _s₄, _hoperation, ⟨rfl, _heq⟩, _hs'⟩
      exact lt_of_drawBelow? hnumber

theorem nextOperations?_succ_isSome {scenario : Scenario} {wallets n : Nat} {s : σ}
    (h : (scenario.nextOperations? wallets s (n + 1)).isSome) :
    exists first s', scenario.nextOperation? wallets s = some (first, s') ∧
      (scenario.nextOperations? wallets s' n).isSome := by
  unfold nextOperations? at h
  cases hfirst : scenario.nextOperation? wallets s with
  | none =>
      rw [hfirst] at h
      cases h
  | some next =>
      rcases next with ⟨first, s'⟩
      refine ⟨first, s', rfl, ?_⟩
      rw [hfirst] at h
      cases hrest : scenario.nextOperations? wallets s' n with
      | none =>
          simp [hrest] at h
      | some rest =>
          rfl

end Scenario

end CurrencyWallet
