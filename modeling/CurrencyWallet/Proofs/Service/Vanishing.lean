import CurrencyWallet.Proofs.Ledger.Verdict
import CurrencyWallet.Proofs.Service.Conversion
import CurrencyWallet.Proofs.Service.Exchange

/-!
# Amounts that come to nothing

What is given for an amount is rounded to the places of a balance, and nothing is left of it when
the product is too small. Only the amount is asked whether it is positive, so such an exchange
takes something and gives nothing.
-/

namespace CurrencyWallet

open Decimal

/-- The smallest product for which something is given: half a step of a balance, or half a step of
the last fractional digit less. -/
def leastPaid : ℚ :=
  (5 * 10 ^ 17 - 1 / 2) / 10 ^ 28

theorem leastPaid_le_iff {x : ℚ} : leastPaid ≤ x <-> 5 * 10 ^ 17 - 1 / 2 ≤ x * 10 ^ 28 :=
  div_le_iff₀ (by positivity)

namespace Conversion

section Compute

variable {amount rate : Decimal} {c : Conversion} (h : compute amount rate = .ok c)
  (hrate : 0 < rate.value)

include h hrate

theorem credit_pos_iff : 0 < c.credit.value <-> leastPaid ≤ c.debit.value * rate.value := by
  rcases exists_product h with ⟨product, hproduct, _hcredit, hvalue⟩
  have hpos := (compute_eq_ok h).right.left
  have hroom := scale_debit_add_le h
  -- Half a step of a balance is an even number of the smallest steps.
  have hsteps := le_value_mul?_iff_of_even hpos hrate hroom hproduct (n := 5 * 10 ^ 17) (by decide)
    (by decide)
  have hhalf : 1 / 2 ≤ product.value * 10 ^ balancePlaces <->
      ((5 * 10 ^ 17 : Nat) : ℚ) ≤ product.value * 10 ^ 28 := by
    norm_num [balancePlaces]
    constructor
    · intro hle
      linarith
    · intro hle
      linarith
  rw [hvalue, roundAway_pos_iff, hhalf, hsteps, leastPaid_le_iff]
  norm_num

theorem credit_eq_zero_iff : c.credit.value = 0 <-> c.debit.value * rate.value < leastPaid := by
  have hnonneg : 0 ≤ c.credit.value :=
    (isPositive_of_compute h hrate .rub .rub).right
  rw [← not_le, ← credit_pos_iff h hrate, not_lt]
  constructor
  · intro hzero
    exact le_of_eq hzero
  · intro hle
    exact le_antisymm hle hnonneg

end Compute

theorem debit_pos_iff {amount : Decimal} : 0 < amount.roundAmount.value <-> 1 / 200 ≤ amount.value := by
  have hvalue : amount.roundAmount.value = roundAway amountPlaces amount.value := value_round _ _
  rw [hvalue, roundAway_pos_iff]
  change 1 / 2 ≤ amount.value * 10 ^ 2 <-> _
  constructor
  · intro h
    linarith
  · intro h
    linarith

theorem compute_of_small {amount : Decimal} (h : amount.value < 1 / 200) (rate : Decimal) :
    compute amount rate = .error .invalidAmount := by
  have hnone : amount.roundAmount ≤ .zero := by
    rw [← value_le_value_iff, value_zero, ← not_lt, debit_pos_iff, not_le]
    exact h
  rw [compute, if_pos hnone]

end Conversion

theorem leastPaid_lt_one : leastPaid < 1 := by
  norm_num [leastPaid]

/-- A debit for which nothing is given is booked if it is covered. -/
theorem Ledger.exists_booked_of_zero {l : Ledger} {user : UserId} {b : Balances}
    {source target : Currency} {debit credit : Decimal} (hget : l.wallets.get? user = some b)
    (hb : b.WellFormed) (hplaces : (Mutation.exchange source target debit credit).FitsPlaces)
    (hne : source ≠ target) (hdebit : 0 < debit.value) (hzero : credit.value = 0)
    (hcovered : debit.value ≤ (b.get source).value) :
    exists b', l.Booked user (.exchange source target debit credit) b' := by
  have hm : (Mutation.exchange source target debit credit).IsPositive := ⟨hdebit, ge_of_eq hzero⟩
  have hvalid : (Mutation.exchange source target debit credit).validate = .ok () := by
    rw [Mutation.validate, if_neg hne]
  have hlimit : forall c, (b.get c).value +
      (Mutation.exchange source target debit credit).change c < 10 ^ 18 := by
    intro c
    have hbelow := (hb c).left.right
    rw [Mutation.change, hzero, ite_self, add_zero]
    split
    · linarith
    · linarith
  rcases (Mutation.exists_booked_iff hm hplaces hb).mpr
    ⟨hvalid, Mutation.covered_of_debitLeg rfl hcovered, hlimit⟩ with ⟨b', hbooked⟩
  exact ⟨b', b, hget, hbooked⟩

namespace Desk

/-- An exchange that succeeds takes something. It gives something exactly when the product of what
is taken and the rate reaches the least that is paid, and below that a covered amount is taken for
nothing. Only an amount that rounds to nothing is refused. -/
theorem exchange_pays {d : Desk} {user : UserId}
    (hwallet : forall b, d.ledger.wallets.get? user = some b -> b.WellFormed)
    (deadline : Option Nat) (source target : String) (amount : Decimal) :
    (forall o d', d.exchange deadline user source target amount = (.ok o, d') ->
      exists pair b, Allowed source target amount pair ∧
        d.ledger.wallets.get? user = some b ∧
        d'.ledger = d.ledger.openWallet user o.newBalance ∧
        (o.newBalance.get pair.source).value < (b.get pair.source).value ∧
        (leastPaid ≤ o.debitedAmount.value * o.rate.value ->
          0 < o.exchangedAmount.value ∧
            (b.get pair.target).value < (o.newBalance.get pair.target).value) ∧
        (o.debitedAmount.value * o.rate.value < leastPaid ->
          o.exchangedAmount.value = 0 ∧
            (o.newBalance.get pair.target).value = (b.get pair.target).value)) ∧
    (forall pair text rate, Allowed source target amount pair ->
      (d.quote deadline pair).1 = .ok text -> parseRate text = .ok rate ->
      (amount.value < 1 / 200 ->
        (d.exchange deadline user source target amount).1 = .error .invalidAmount ∧
          (d.exchange deadline user source target amount).2.ledger = d.ledger) ∧
      (1 / 200 ≤ amount.value -> amount.roundAmount.value * rate.value < leastPaid ->
        forall b, d.ledger.wallets.get? user = some b ->
          amount.roundAmount.value ≤ (b.get pair.source).value ->
          exists o, (d.exchange deadline user source target amount).1 = .ok o ∧
            o.debitedAmount = amount.roundAmount ∧ o.exchangedAmount.value = 0)) := by
  constructor
  · intro o d' houtcome
    have hends := d.exchange_ends deadline user source target amount
    rw [houtcome] at hends
    cases hends with
    | booked hallowed _hquote hrate hcompute hbook =>
        rename_i pair text rate c b'
        have hpositive := value_pos_of_parseRate hrate
        have hm := isPositive_of_compute hcompute hpositive pair.source pair.target
        have hplaces := fitsPlaces_of_compute hcompute pair.source pair.target
        rcases hbook with ⟨b, hget, hbooked⟩
        rcases Mutation.wellFormed_of_booked hm hplaces (hwallet b hget) hbooked with
          ⟨_hwell, hvalue⟩
        have htaken := hvalue pair.source
        have hgiven := hvalue pair.target
        rw [Mutation.change_exchange_source hallowed.distinct] at htaken
        rw [Mutation.change_exchange_target hallowed.distinct] at hgiven
        refine ⟨pair, b, hallowed, hget, rfl, ?_, ?_, ?_⟩
        · linarith [hm.left]
        · intro hpaid
          have hcredit := (Conversion.credit_pos_iff hcompute hpositive).mpr hpaid
          exact ⟨hcredit, by linarith⟩
        · intro hlost
          have hcredit := (Conversion.credit_eq_zero_iff hcompute hpositive).mpr hlost
          exact ⟨hcredit, by linarith⟩
  · intro pair text rate hallowed hquote hrate
    constructor
    · intro hsmall
      have hcompute := Conversion.compute_of_small hsmall rate
      rw [exchange_of_uncomputed hallowed hquote hrate user hcompute]
      exact ⟨rfl, rfl⟩
    · intro hamount hlost b hget hcovered
      have hpositive := value_pos_of_parseRate hrate
      have hdebit := Conversion.debit_pos_iff.mpr hamount
      have hfits : amount.roundAmount.value * rate.value ≤ 2 ^ 96 - 1 := by
        linarith [leastPaid_lt_one]
      rcases exists_mul? hdebit hpositive Conversion.scale_add_scale_le hfits with
        ⟨product, hproduct⟩
      have hcompute := Conversion.compute_eq_ok_of_mul? hdebit hproduct
      have hzero := (Conversion.credit_eq_zero_iff hcompute hpositive).mpr hlost
      have hplaces := fitsPlaces_of_compute hcompute pair.source pair.target
      rcases Ledger.exists_booked_of_zero hget (hwallet b hget) hplaces hallowed.distinct hdebit
        hzero hcovered with ⟨b', hbooked⟩
      rw [exchange_of_computed hallowed hquote hrate user hcompute, settle_quote,
        Ledger.outcome_eq_ok_iff.mpr hbooked]
      exact ⟨_, rfl, rfl, hzero⟩

theorem exchange_pays_at_two_rates :
    let rates : ListedRates := { ListedRates.empty with
      rates := (Directory.insert ∅ ⟨.rub, .usd⟩ "0.000000005").insert ⟨.rub, .eur⟩ "0.0000000049" }
    let user := UserId.ofNat 0
    let cent : Decimal := ⟨false, 1, 2, by decide, by decide⟩
    let less : Decimal := ⟨false, 4, 3, by decide, by decide⟩
    let held : Balances := ⟨⟨false, 1, 0, by decide, by decide⟩, .zero, .zero⟩
    let d := start (Ledger.empty.openWallet user held) {} rates.provider
    (forall b, d.ledger.wallets.get? user = some b -> b.WellFormed) ∧
      (exists o, (d.exchange none user "RUB" "USD" cent).1 = .ok o ∧ 0 < o.exchangedAmount.value) ∧
      (exists o, (d.exchange none user "RUB" "EUR" cent).1 = .ok o ∧ o.exchangedAmount.value = 0) ∧
      (d.exchange none user "RUB" "EUR" less).1 = .error .invalidAmount := by
  intro rates user cent less held d
  have hget : d.ledger.wallets.get? user = some held := by decide +kernel
  have hwallet : forall b, d.ledger.wallets.get? user = some b -> b.WellFormed :=
    Ledger.forall_get?_of_eq_some hget (by decide)
  have hround : cent.roundAmount = cent := by decide
  have hcent : cent.value = 1 / 100 := by norm_num [cent, value, coefficient]
  have hless : less.value = 4 / 1000 := by norm_num [less, value, coefficient]
  have hone : (held.get .rub).value = 1 := by norm_num [held, Balances.get, value, coefficient]
  have hallowed : Allowed "RUB" "EUR" cent ⟨.rub, .eur⟩ :=
    ⟨by norm_num [hcent], by decide +kernel, by decide +kernel, by decide⟩
  have hallowed' : Allowed "RUB" "EUR" less ⟨.rub, .eur⟩ :=
    ⟨by norm_num [hless], by decide +kernel, by decide +kernel, by decide⟩
  let rate : Decimal := ⟨false, 49, 10, by decide, by decide⟩
  have hquote : (d.quote none ⟨.rub, .eur⟩).1 = .ok "0.0000000049" := by decide +kernel
  have hrate : parseRate "0.0000000049" = .ok rate := by decide +kernel
  have hratevalue : rate.value = 49 / 10 ^ 10 := by norm_num [rate, value, coefficient]
  rcases exchange_pays hwallet none "RUB" "USD" cent with ⟨hpaid, _hquoted⟩
  rcases exchange_pays hwallet none "RUB" "EUR" cent with ⟨_hpaid, hquoted⟩
  rcases exchange_pays hwallet none "RUB" "EUR" less with ⟨_hpaid', hquoted'⟩
  refine ⟨hwallet, ?_, ?_, ?_⟩
  · let higher : Decimal := ⟨false, 5, 9, by decide, by decide⟩
    let credit : Decimal := ⟨false, 1, 10, by decide, by decide⟩
    let left : Balances := ⟨⟨false, 99, 2, by decide, by decide⟩, credit, .zero⟩
    have hexchange : (d.exchange none user "RUB" "USD" cent).1 = .ok ⟨credit, cent, higher, left⟩ := by
      decide +kernel
    have hhigher : higher.value = 5 / 10 ^ 9 := by norm_num [higher, value, coefficient]
    rcases hpaid _ _ (Prod.ext hexchange rfl) with
      ⟨pair, b, _hallowed, _hget, _hledger, _htaken, hgiven, _hlost⟩
    refine ⟨_, hexchange, (hgiven ?_).left⟩
    norm_num [hcent, hhigher, leastPaid]
  · have hlost : cent.roundAmount.value * rate.value < leastPaid := by
      rw [hround, hcent, hratevalue]
      norm_num [leastPaid]
    rcases (hquoted _ _ _ hallowed hquote hrate).right (by norm_num [hcent]) hlost held hget
      (by rw [hround]; norm_num [hcent, hone]) with ⟨o, ho, _hdebit, hzero⟩
    exact ⟨o, ho, hzero⟩
  · exact ((hquoted' _ _ _ hallowed' hquote hrate).left (by norm_num [hless])).left

/-- A hundredth of a rouble is taken for nothing. -/
theorem exchange_pays_nothing :
    let rates : ListedRates :=
      { ListedRates.empty with rates := Directory.insert ∅ ⟨.rub, .usd⟩ "0.0000000001" }
    let user := UserId.ofNat 0
    let cent : Decimal := ⟨false, 1, 2, by decide, by decide⟩
    let rate : Decimal := ⟨false, 1, 10, by decide, by decide⟩
    let nothing : Decimal := ⟨false, 0, 10, by decide, by decide⟩
    let held : Balances := ⟨⟨false, 1, 0, by decide, by decide⟩, .zero, .zero⟩
    let left : Balances := ⟨⟨false, 99, 2, by decide, by decide⟩, nothing, .zero⟩
    let d := start (Ledger.empty.openWallet user held) {} rates.provider
    let outcome := d.exchange none user "RUB" "USD" cent
    d.ledger.wallets.get? user = some held ∧ held.WellFormed ∧
      parseRate "0.0000000001" = .ok rate ∧ outcome.1 = .ok ⟨nothing, cent, rate, left⟩ ∧
      outcome.2.ledger.wallets.get? user = some left ∧
      (left.get .rub).value < (held.get .rub).value ∧ ¬ 0 < nothing.value ∧
      ¬ (held.get .usd).value < (left.get .usd).value := by
  intro rates user cent rate nothing held left d outcome
  have hnothing : nothing.value = 0 := value_eq_zero_iff.mpr rfl
  refine ⟨by decide +kernel, by decide, by decide +kernel, by decide +kernel, by decide +kernel, ?_,
    ?_, ?_⟩
  · rw [value_lt_value_iff]
    decide
  · rw [hnothing]
    exact lt_irrefl 0
  · rw [value_lt_value_iff]
    decide

end Desk

end CurrencyWallet
