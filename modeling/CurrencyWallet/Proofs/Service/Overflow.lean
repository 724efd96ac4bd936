import CurrencyWallet.Proofs.Ledger.Verdict
import CurrencyWallet.Proofs.Service.Conversion
import CurrencyWallet.Proofs.Service.Exchange

/-!
# Exchanges that reach the limit

A balance that would reach the limit is refused for that reason, and rounding does not blur the
limit. When the product has no room in a decimal, though, the books never hear of it, and the
amount is blamed.
-/

namespace CurrencyWallet

open Decimal

theorem Decimal.IsBalance.exists_room {t : Decimal} (h : t.IsBalance) :
    exists x : Decimal, x.scale ≤ balancePlaces ∧ x.value = 10 ^ 18 - t.value := by
  have hfits : |limit.value - t.value| * 10 ^ max limit.scale t.scale < 2 ^ 96 := by
    have hscale : max limit.scale t.scale ≤ balancePlaces := max_le (Nat.zero_le _) h.right
    have hpow : (10 : ℚ) ^ max limit.scale t.scale ≤ 10 ^ balancePlaces :=
      pow_le_pow_right₀ (by norm_num) hscale
    rw [value_limit, abs_of_nonneg (by linarith [h.left.right])]
    calc
      (10 ^ 18 - t.value) * 10 ^ max limit.scale t.scale ≤ 10 ^ 18 * 10 ^ balancePlaces :=
        mul_le_mul (by linarith [h.left.left]) hpow (by positivity) (by positivity)
      _ < 2 ^ 96 := by norm_num [balancePlaces]
  rcases sub?_exact hfits with ⟨x, hx, hvalue⟩
  refine ⟨x, Nat.le_trans (scale_le_of_sub? hx) (max_le (Nat.zero_le _) h.right), ?_⟩
  rw [hvalue, value_limit]

namespace Conversion

section Compute

variable {amount rate : Decimal} {c : Conversion} (h : compute amount rate = .ok c)
  (hrate : 0 < rate.value)

include h hrate

theorem le_credit {x : Decimal} (hplaces : x.scale ≤ balancePlaces)
    (hle : x.value ≤ c.debit.value * rate.value) : x.value ≤ c.credit.value := by
  rcases exists_product h with ⟨product, hproduct, _hcredit, hvalue⟩
  have hpos := (compute_eq_ok h).right.left
  rw [hvalue, ← roundAway_of_whole (coefficientAt_eq_value_mul hplaces).symm]
  exact roundAway_mono (le_mul? hpos hrate (scale_debit_add_le h) hproduct hle)

theorem limit_le_credit {t : Decimal} (ht : t.IsBalance)
    (hlimit : 10 ^ 18 ≤ t.value + c.debit.value * rate.value) :
    10 ^ 18 ≤ t.value + c.credit.value := by
  rcases ht.exists_room with ⟨x, hplaces, hx⟩
  have hreached := le_credit h hrate hplaces (by linarith)
  linarith

end Compute

theorem compute_of_overflow {amount rate : Decimal} (h : amount.roundAmount.mul? rate = none) :
    compute amount rate = .error .invalidAmount := by
  rw [compute]
  split
  · rfl
  · rw [h]

end Conversion

namespace Ledger

/-- An exchange that is covered is refused when the balance to be credited would reach the
limit. -/
theorem outcome_of_limit_le {l : Ledger} {user : UserId} {b : Balances} {source target : Currency}
    {debit credit : Decimal} (hget : l.wallets.get? user = some b) (hb : b.WellFormed)
    (hm : (Mutation.exchange source target debit credit).IsPositive)
    (hplaces : (Mutation.exchange source target debit credit).FitsPlaces) (hne : source ≠ target)
    (hcovered : debit.value ≤ (b.get source).value)
    (hlimit : 10 ^ 18 ≤ (b.get target).value + credit.value) :
    l.outcome user (.exchange source target debit credit) = .error (.amountOutOfRange target) := by
  have hexact := Mutation.apply_exchange_eq hb (le_of_lt hm.left) hm.right hplaces
  rw [Mutation.exactly, if_neg hne, if_neg (not_lt.mpr hcovered), if_neg (not_lt.mpr hlimit)]
    at hexact
  rw [outcome, balances_eq_ok_iff.mpr hget]
  change (Mutation.exchange source target debit credit).apply b = _
  cases happly : (Mutation.exchange source target debit credit).apply b with
  | error e =>
      rw [happly] at hexact
      cases hexact
      rfl
  | ok b' =>
      rw [happly] at hexact
      cases hexact

end Ledger

namespace Desk

/-- A covered exchange that would bring a balance to the limit is refused. The error names the
balance if the product has room in a decimal, and blames the amount if it has none. -/
theorem exchange_at_limit {d : Desk} {user : UserId} {b : Balances}
    (hget : d.ledger.wallets.get? user = some b) (hb : b.WellFormed) {deadline : Option Nat}
    {source target text : String} {amount rate : Decimal} {pair : CurrencyPair}
    (hallowed : Allowed source target amount pair)
    (hquote : (d.quote deadline pair).1 = .ok text) (hrate : parseRate text = .ok rate)
    (hdebit : 0 < amount.roundAmount.value)
    (hcovered : amount.roundAmount.value ≤ (b.get pair.source).value)
    (hlimit : 10 ^ 18 ≤ (b.get pair.target).value + amount.roundAmount.value * rate.value) :
    (d.exchange deadline user source target amount).1 =
        .error (if amount.roundAmount.value * rate.value < 2 ^ 96 - 1 / 2 then
          .ledger (.amountOutOfRange pair.target)
        else .invalidAmount) ∧
      (d.exchange deadline user source target amount).2.ledger = d.ledger := by
  have hpositive := value_pos_of_parseRate hrate
  have hroom := exists_mul?_iff hdebit hpositive Conversion.scale_add_scale_le
  split
  next hfits =>
    rcases hroom.mpr hfits with ⟨product, hproduct⟩
    have hcompute := Conversion.compute_eq_ok_of_mul? hdebit hproduct
    have hm := isPositive_of_compute hcompute hpositive pair.source pair.target
    have hplaces := fitsPlaces_of_compute hcompute pair.source pair.target
    have hreached := Conversion.limit_le_credit hcompute hpositive (hb pair.target) hlimit
    rw [exchange_of_computed hallowed hquote hrate user hcompute, settle_quote,
      Ledger.outcome_of_limit_le hget hb hm hplaces hallowed.distinct hcovered hreached]
    exact ⟨rfl, rfl⟩
  next hoverflow =>
    have hnone : amount.roundAmount.mul? rate = none := by
      rw [Option.eq_none_iff_forall_ne_some]
      intro product hproduct
      exact hoverflow (hroom.mp ⟨product, hproduct⟩)
    rw [exchange_of_uncomputed hallowed hquote hrate user (Conversion.compute_of_overflow hnone)]
    exact ⟨rfl, rfl⟩

theorem exchange_at_limit_two_roubles :
    let rates : ListedRates :=
      { ListedRates.empty with rates := Directory.insert ∅ ⟨.rub, .usd⟩ "400000000000000000" }
    let user := UserId.ofNat 0
    let two : Decimal := ⟨false, 2, 0, by decide, by decide⟩
    let rate : Decimal := ⟨false, 400000000000000000, 0, by decide, by decide⟩
    let held : Balances := ⟨two, ⟨false, 200000000000000000, 0, by decide, by decide⟩, .zero⟩
    let d := start (Ledger.empty.openWallet user held) {} rates.provider
    d.ledger.wallets.get? user = some held ∧ held.WellFormed ∧
      Allowed "RUB" "USD" two ⟨.rub, .usd⟩ ∧
      (d.quote none ⟨.rub, .usd⟩).1 = .ok "400000000000000000" ∧
      parseRate "400000000000000000" = .ok rate ∧
      two.roundAmount.value ≤ (held.get .rub).value ∧
      (held.get .usd).value + two.roundAmount.value * rate.value = 10 ^ 18 ∧
      (d.exchange none user "RUB" "USD" two).1 = .error (.ledger (.amountOutOfRange .usd)) ∧
      (d.exchange none user "RUB" "USD" two).2.ledger = d.ledger := by
  intro rates user two rate held d
  have hget : d.ledger.wallets.get? user = some held := by decide +kernel
  have hround : two.roundAmount = two := by decide
  have htwo : two.value = 2 := by norm_num [two, value, coefficient]
  have hratevalue : rate.value = 4 * 10 ^ 17 := by norm_num [rate, value, coefficient]
  have husd : (held.get .usd).value = 2 * 10 ^ 17 := by
    norm_num [held, Balances.get, value, coefficient]
  have hallowed : Allowed "RUB" "USD" two ⟨.rub, .usd⟩ :=
    ⟨by norm_num [htwo], by decide +kernel, by decide +kernel, by decide⟩
  have hquote : (d.quote none ⟨.rub, .usd⟩).1 = .ok "400000000000000000" := by decide +kernel
  have hrate : parseRate "400000000000000000" = .ok rate := by decide +kernel
  have hdebit : 0 < two.roundAmount.value := by norm_num [hround, htwo]
  have hcovered : two.roundAmount.value ≤ (held.get .rub).value := by
    rw [hround]
    exact le_refl two.value
  have hsum : (held.get .usd).value + two.roundAmount.value * rate.value = 10 ^ 18 := by
    norm_num [hround, htwo, hratevalue, husd]
  have hfits : two.roundAmount.value * rate.value < 2 ^ 96 - 1 / 2 := by
    norm_num [hround, htwo, hratevalue]
  rcases exchange_at_limit hget (by decide) hallowed hquote hrate hdebit hcovered (ge_of_eq hsum) with
    ⟨hrefused, hsame⟩
  rw [if_pos hfits] at hrefused
  exact ⟨hget, by decide, hallowed, hquote, hrate, hcovered, hsum, hrefused, hsame⟩

/-- A product of more than 96 bits is far beyond the limit, and the amount is blamed for it. -/
theorem exchange_beyond_limit_blames_amount :
    let rates : ListedRates := { ListedRates.empty with
      rates := Directory.insert ∅ ⟨.rub, .usd⟩ "79228162514264337593543950335" }
    let user := UserId.ofNat 0
    let two : Decimal := ⟨false, 2, 0, by decide, by decide⟩
    let rate : Decimal := ⟨false, 79228162514264337593543950335, 0, by decide, by decide⟩
    let held : Balances := ⟨two, .zero, .zero⟩
    let d := start (Ledger.empty.openWallet user held) {} rates.provider
    d.ledger.wallets.get? user = some held ∧ held.WellFormed ∧
      parseRate "79228162514264337593543950335" = .ok rate ∧
      0 < two.roundAmount.value ∧ two.roundAmount.value ≤ (held.get .rub).value ∧
      10 ^ 18 + 1 ≤ (held.get .usd).value + two.roundAmount.value * rate.value ∧
      (d.exchange none user "RUB" "USD" two).1 = .error .invalidAmount ∧
      (d.exchange none user "RUB" "USD" two).1 ≠ .error (.ledger (.amountOutOfRange .usd)) := by
  intro rates user two rate held d
  have hround : two.roundAmount = two := by decide
  have htwo : two.value = 2 := by norm_num [two, value, coefficient]
  have hratevalue : rate.value = 79228162514264337593543950335 := by
    norm_num [rate, value, coefficient]
  have husd : (held.get .usd).value = 0 := value_zero
  have hrefused : (d.exchange none user "RUB" "USD" two).1 = .error .invalidAmount := by
    decide +kernel
  refine ⟨by decide +kernel, by decide, by decide +kernel, by norm_num [hround, htwo], ?_, ?_,
    hrefused, ?_⟩
  · rw [hround]
    exact le_refl two.value
  · norm_num [hround, htwo, hratevalue, husd]
  · rw [hrefused]
    intro h
    cases h

end Desk

end CurrencyWallet
