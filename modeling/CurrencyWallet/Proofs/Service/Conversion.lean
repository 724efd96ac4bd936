import CurrencyWallet.Proofs.Decimal.Product
import CurrencyWallet.Proofs.Service.Reconciliation

/-!
# What is given for an amount

For a rate with at most eight fractional digits an exchange gives the exact product of the
amount and the rate. For a longer rate the product is rounded twice, first by the multiplication
and then to the places of a balance. The main statements say that an ordinary exchange is never
rounded, and exactly when two roundings differ from one.
-/

namespace CurrencyWallet

open Decimal

theorem Conversion.scale_add_scale_le {amount rate : Decimal} :
    amount.roundAmount.scale + rate.scale ≤ 47 := by
  have hplaces : amount.roundAmount.scale ≤ amountPlaces := scale_round_le _ _
  have hscale := rate.scale_le
  unfold amountPlaces at hplaces
  omega

/-!
## Ordinary rates
-/

section Ordinary

variable {amount rate : Decimal} {c : Conversion} (h : Conversion.compute amount rate = .ok c)
  (hrate : 0 < rate.value)

include h

theorem scale_debit_le : c.debit.scale ≤ amountPlaces := by
  rw [(compute_eq_ok h).left]
  exact scale_round_le _ _

theorem value_debit : c.debit.value = roundAway amountPlaces amount.value := by
  rw [(compute_eq_ok h).left]
  exact value_round _ _

theorem scale_debit_add_le : c.debit.scale + rate.scale ≤ 47 := by
  rw [(compute_eq_ok h).left]
  exact Conversion.scale_add_scale_le

theorem exists_product : exists product, c.debit.mul? rate = some product ∧
    c.credit = product.roundBalance ∧
    c.credit.value = roundAway balancePlaces product.value := by
  rcases compute_eq_ok h with ⟨_hdebit, _hpos, product, hproduct, hcredit⟩
  refine ⟨product, hproduct, hcredit, ?_⟩
  rw [hcredit]
  exact value_round _ _

include hrate

/-- The product of an amount and a rate with at most eight fractional digits is a balance, unless
it is too large. -/
theorem exists_product_units {n : ℤ} (hn : rate.value * 10 ^ 8 = n) :
    exists k : Nat, c.debit.value * rate.value * 10 ^ balancePlaces = k := by
  have hdebit := coefficientAt_eq_value_mul (scale_debit_le h)
  have hwhole : c.debit.value * rate.value * 10 ^ balancePlaces =
      ((c.debit.coefficientAt amountPlaces * n : ℤ) : ℚ) := by
    rw [Int.cast_mul, hdebit, ← hn]
    change c.debit.value * rate.value * 10 ^ 10 = c.debit.value * 10 ^ 2 * (rate.value * 10 ^ 8)
    ring
  have hnonneg : 0 ≤ c.debit.coefficientAt amountPlaces * n := by
    rw [← Int.cast_nonneg_iff (R := ℚ), ← hwhole]
    have hpos := mul_pos (compute_eq_ok h).right.left hrate
    positivity
  refine ⟨(c.debit.coefficientAt amountPlaces * n).toNat, ?_⟩
  rw [hwhole, ← Int.cast_natCast, Int.toNat_of_nonneg hnonneg]

/-- A credit below the limit is the exact product. Neither the multiplication nor the rounding
that follows it has changed anything. -/
theorem credit_eq_product {n : ℤ} (hn : rate.value * 10 ^ 8 = n) (hlt : c.credit.value < 10 ^ 18) :
    exists product, c.debit.mul? rate = some product ∧
      product.value = c.debit.value * rate.value ∧ c.credit = product.roundBalance ∧
      c.credit.value = product.value := by
  rcases exists_product h with ⟨product, hproduct, hcredit, hvalue⟩
  rcases exists_product_units h hrate hn with ⟨k, hk⟩
  have hpos := (compute_eq_ok h).right.left
  have hroom := scale_debit_add_le h
  -- A product that reaches the limit would still reach it after both roundings.
  have hbelow : c.debit.value * rate.value < 10 ^ 18 := by
    by_contra hreached
    rw [not_lt, ← value_limit] at hreached
    have hfitted := le_mul? hpos hrate hroom hproduct hreached
    have hrounded : roundAway balancePlaces limit.value ≤ roundAway balancePlaces product.value :=
      roundAway_mono hfitted
    have hlimit : limit.value * 10 ^ balancePlaces = ((10 ^ 28 : ℤ) : ℚ) := by
      rw [value_limit]
      norm_num [balancePlaces]
    rw [roundAway_of_whole hlimit, value_limit, ← hvalue] at hrounded
    exact absurd hlt (not_lt.mpr hrounded)
  have hfits : k < 2 ^ 96 := by
    rw [← Nat.cast_lt (α := ℚ), ← hk]
    calc
      c.debit.value * rate.value * 10 ^ balancePlaces < 10 ^ 18 * 10 ^ balancePlaces :=
        mul_lt_mul_of_pos_right hbelow (by positivity)
      _ < ((2 ^ 96 : Nat) : ℚ) := by norm_num [balancePlaces]
  have hexact := value_mul?_of_places hpos hrate hroom hproduct (by decide) hfits hk
  refine ⟨product, hproduct, hexact, hcredit, ?_⟩
  rw [hvalue]
  apply roundAway_of_whole (n := k)
  rw [hexact, hk, Int.cast_natCast]

end Ordinary

namespace Desk

theorem deal_of_exchange {d d' : Desk} {deadline : Option Nat} {user : UserId}
    {source target : String} {amount : Decimal} {o : ExchangeOutcome}
    (hwallet : forall b, d.ledger.wallets.get? user = some b -> b.WithinBounds)
    (h : d.exchange deadline user source target amount = (.ok o, d')) :
    0 < o.rate.value ∧
      Conversion.compute amount o.rate = .ok ⟨o.debitedAmount, o.exchangedAmount⟩ ∧
      o.exchangedAmount.value < 10 ^ 18 := by
  rcases d.exchange_cases user deadline source target amount with
    ⟨e, d₁, hfails, _hsame⟩ | ⟨pair, rate, c, b, quotes, hdeal, hexchange⟩
  · rw [h] at hfails
    cases hfails
  · rw [h] at hexchange
    cases hexchange
    rcases hdeal.booked with ⟨b₀, hget, hbooked⟩
    refine ⟨hdeal.rate_pos, hdeal.computed, ?_⟩
    cases hbooked with
    | exchange hne hcovered hrest hsum hrange =>
        linarith [lt_limit_of_add? hsum hrange, (hwallet b₀ hget pair.target).left]

/-- An exchange at a rate with at most eight fractional digits takes the amount, rounded once to
the places of an amount, and gives the exact product. Over the counter it takes exactly the
amount that has been validated. -/
theorem exchange_exact {d : Desk} {user : UserId}
    (hwallet : forall b, d.ledger.wallets.get? user = some b -> b.WithinBounds) :
    (forall deadline source target amount o d',
      d.exchange deadline user source target amount = (.ok o, d') ->
      (exists pair quoted, parsePair source target = .ok pair ∧
        (d.quote deadline pair).1 = .ok quoted ∧ parseRate quoted = .ok o.rate) ∧
      o.debitedAmount.value = roundAway amountPlaces amount.value ∧
      ((exists n : ℤ, o.rate.value * 10 ^ 8 = n) ->
        o.exchangedAmount.value = o.debitedAmount.value * o.rate.value ∧
        exists product, o.debitedAmount.mul? o.rate = some product ∧
          product.value = o.debitedAmount.value * o.rate.value ∧
          o.exchangedAmount = product.roundBalance ∧ o.exchangedAmount.value = product.value)) ∧
    (forall timeout id text body s d', UserId.parse? text = some user ->
      d.handle timeout id (.exchange text body) = (.ok s, d') ->
      exists t o, body.validate = .ok t ∧
        d.exchange (some (d.quotes.clock + timeout)) user t.source t.target t.amount = (.ok o, d') ∧
        s = .exchanged o.exchangedAmount o.newBalance ∧ o.debitedAmount = t.amount) := by
  constructor
  · intro deadline source target amount o d' h
    rcases deal_of_exchange hwallet h with ⟨hrate, hcompute, hlt⟩
    rcases quoted_of_exchange (congrArg Prod.fst h) with ⟨pair, text, hallowed, hquote, hread⟩
    have hpair := parsePair_eq_ok_iff.mpr ⟨hallowed.source_named, hallowed.target_named⟩
    refine ⟨⟨pair, text, hpair, hquote, hread⟩, value_debit hcompute, ?_⟩
    intro hplaces
    rcases hplaces with ⟨n, hn⟩
    rcases credit_eq_product hcompute hrate hn hlt with ⟨product, hproduct, hexact, hround, hvalue⟩
    exact ⟨hvalue.trans hexact, product, hproduct, hexact, hround, hvalue⟩
  · intro timeout id text body s d' huser h
    rw [handle, answer] at h
    cases hread : readExchange text body with
    | error e =>
        rw [hread] at h
        cases h
    | ok order =>
        rcases order with ⟨user', t⟩
        rcases readExchange_eq_ok hread with ⟨huser', hbody⟩
        rw [huser] at huser'
        cases huser'
        rw [hread] at h
        dsimp only at h
        rcases hexchange : d.exchange (some (d.quotes.clock + timeout)) user t.source t.target
          t.amount with ⟨outcome, d₁⟩
        rw [hexchange] at h
        cases outcome with
        | error e =>
            cases h
        | ok o =>
            cases h
            refine ⟨t, o, hbody, hexchange, rfl, ?_⟩
            have hcompute := (deal_of_exchange hwallet hexchange).right.left
            have hscale := ExchangeRequest.scale_le_of_validate hbody
            exact (compute_eq_ok hcompute).left.trans (round_of_scale_le hscale)

theorem exchange_exact_cent :
    let rates : ListedRates :=
      { ListedRates.empty with rates := Directory.insert ∅ ⟨.rub, .usd⟩ "0.01250001" }
    let text := "00000000-0000-0000-0000-000000000000"
    let user := UserId.ofNat 0
    let cent : Decimal := ⟨false, 1, 2, by decide, by decide⟩
    let rate : Decimal := ⟨false, 1250001, 8, by decide, by decide⟩
    let credit : Decimal := ⟨false, 1250001, 10, by decide, by decide⟩
    let held : Balances := ⟨⟨false, 1000, 0, by decide, by decide⟩, .zero, .zero⟩
    let left : Balances := ⟨⟨false, 99999, 2, by decide, by decide⟩, credit, .zero⟩
    let d := start (Ledger.empty.openWallet user held) {} rates.provider
    let body : ExchangeRequest := ⟨some "rub", some "usd", some ⟨0x3f847ae147ae147b⟩⟩
    (forall b, d.ledger.wallets.get? user = some b -> b.WithinBounds) ∧
      (d.exchange none user "rub" "usd" cent).1 = .ok ⟨credit, cent, rate, left⟩ ∧
      cent.value = roundAway amountPlaces cent.value ∧ credit.value = cent.value * rate.value ∧
      (d.handle 5000 default (.exchange text body)).1 = .ok (.exchanged credit left) ∧
      exists t o, body.validate = .ok t ∧
        (d.exchange (some 5000) user t.source t.target t.amount).1 = .ok o ∧
        o.exchangedAmount = credit ∧ o.debitedAmount = t.amount := by
  intro rates text user cent rate credit held left d body
  have hwallet : forall b, d.ledger.wallets.get? user = some b -> b.WithinBounds := by
    have hget : d.ledger.wallets.get? user = some held := by decide +kernel
    have hheld : held.WithinBounds := by decide
    intro b hb
    rw [hget] at hb
    cases hb
    exact hheld
  have hexchange : (d.exchange none user "rub" "usd" cent).1 = .ok ⟨credit, cent, rate, left⟩ := by
    decide +kernel
  have hhandle : (d.handle 5000 default (.exchange text body)).1 = .ok (.exchanged credit left) := by
    decide +kernel
  have huser : UserId.parse? text = some user := by decide +kernel
  have hplaces : exists n : ℤ, rate.value * 10 ^ 8 = n := by
    refine ⟨1250001, ?_⟩
    norm_num [rate, value, coefficient]
  rcases exchange_exact hwallet with ⟨hdirect, hserved⟩
  rcases hdirect none "rub" "usd" cent _ _ (Prod.ext hexchange rfl) with ⟨_hquoted, hdebit, hcredit⟩
  rcases hserved 5000 default text body _ _ huser (Prod.ext hhandle rfl) with
    ⟨t, o, hvalid, ho, hreply, hamount⟩
  injection hreply with hgiven _hleft
  exact ⟨hwallet, hexchange, hdebit, (hcredit hplaces).left, hhandle, t, o, hvalid,
    congrArg Prod.fst ho, hgiven.symm, hamount⟩

end Desk

/-!
## Longer rates
-/

namespace Conversion

theorem compute_eq_ok_of_mul? {amount rate product : Decimal}
    (hdebit : 0 < amount.roundAmount.value) (h : amount.roundAmount.mul? rate = some product) :
    compute amount rate = .ok ⟨amount.roundAmount, product.roundBalance⟩ := by
  have hpos : ¬ amount.roundAmount ≤ .zero := by
    rw [← value_le_value_iff, value_zero, not_le]
    exact hdebit
  rw [compute, if_neg hpos, h]

/-- A product below the limit is given, rounded twice. The credit is the product rounded once
unless the multiplication has raised the product to a midpoint, or lowered it from one, and is
off by one in the last place then. It does neither to a product that it has room for. -/
theorem credit_eq_roundAway_iff {amount rate : Decimal} (hdebit : 0 < amount.roundAmount.value)
    (hrate : 0 < rate.value) (hlt : amount.roundAmount.value * rate.value < 10 ^ 18) :
    let due := amount.roundAmount.value * rate.value
    exists product c, amount.roundAmount.mul? rate = some product ∧
      compute amount rate = .ok c ∧ c.debit = amount.roundAmount ∧
      (c.credit.value = roundAway balancePlaces due <->
        ¬ RaisedToMidpoint balancePlaces due product.value ∧
          ¬ LoweredFromMidpoint balancePlaces due product.value) ∧
      (RaisedToMidpoint balancePlaces due product.value ->
        c.credit.value = roundAway balancePlaces due + 1 / 10 ^ balancePlaces) ∧
      (LoweredFromMidpoint balancePlaces due product.value ->
        c.credit.value = roundAway balancePlaces due - 1 / 10 ^ balancePlaces) ∧
      (amount.roundAmount.mantissa * rate.mantissa < 2 ^ 96 ->
        amount.roundAmount.scale + rate.scale ≤ 28 ->
        c.credit.value = roundAway balancePlaces due) := by
  intro due
  have hfits : due ≤ 2 ^ 96 - 1 := by linarith
  have hbelow : due * 10 ^ balancePlaces < 2 ^ 96 - 1 :=
    calc
      due * 10 ^ balancePlaces < 10 ^ 18 * 10 ^ balancePlaces :=
        mul_lt_mul_of_pos_right hlt (by positivity)
      _ ≤ 2 ^ 96 - 1 := by norm_num [balancePlaces]
  rcases exists_mul? hdebit hrate scale_add_scale_le hfits with ⟨product, hproduct⟩
  have htwice := roundedTwice_of_mul? hdebit hrate scale_add_scale_le hproduct (by decide) hbelow
  have hvalue : product.roundBalance.value = roundAway balancePlaces product.value :=
    value_round _ _
  refine ⟨product, ⟨amount.roundAmount, product.roundBalance⟩, hproduct,
    compute_eq_ok_of_mul? hdebit hproduct, rfl, ?_⟩
  dsimp only
  rw [hvalue]
  refine ⟨htwice.roundAway_eq_iff, htwice.raised, htwice.lowered, ?_⟩
  intro hdigits hplaces
  rcases mul?_exact hdigits hplaces with ⟨r, hr, _hscale, hexact⟩
  rw [hproduct] at hr
  cases hr
  rw [hexact]

theorem credit_eq_roundAway_iff_lowered :
    let amount : Decimal := ⟨false, 5, 2, by decide, by decide⟩
    let rate : Decimal := ⟨false, 16000000000000000000000000001, 9, by decide, by decide⟩
    let product : Decimal := ⟨false, 8000000000000000000000000000, 10, by decide, by decide⟩
    let due := amount.roundAmount.value * rate.value
    (0 < amount.roundAmount.value ∧ 0 < rate.value ∧ due < 10 ^ 18) ∧
      amount.roundAmount.mul? rate = some product ∧
      LoweredFromMidpoint balancePlaces due product.value ∧
      exists c, compute amount rate = .ok c ∧
        c.credit.value = roundAway balancePlaces due - 1 / 10 ^ balancePlaces := by
  intro amount rate product due
  have hround : amount.roundAmount = amount := by decide
  have hamount : amount.roundAmount.value = 5 / 100 := by
    rw [hround]
    norm_num [amount, value, coefficient]
  have hrate : rate.value = 16000000000000000000000000001 / 10 ^ 9 := by
    norm_num [rate, value, coefficient]
  have hproduct : product.value = 8 * 10 ^ 17 := by
    norm_num [product, value, coefficient]
  have hdue : due = 80000000000000000000000000005 / 10 ^ 11 := by
    change amount.roundAmount.value * rate.value = _
    rw [hamount, hrate]
    norm_num
  have hpos : 0 < amount.roundAmount.value := by norm_num [hamount]
  have hrpos : 0 < rate.value := by norm_num [hrate]
  have hlt : due < 10 ^ 18 := by norm_num [hdue]
  have hmul : amount.roundAmount.mul? rate = some product := by decide +kernel
  have hlowered : LoweredFromMidpoint balancePlaces due product.value := by
    rw [hdue, hproduct]
    exact ⟨⟨8000000000000000000000000000, by norm_num [balancePlaces]⟩, by norm_num⟩
  rcases credit_eq_roundAway_iff hpos hrpos hlt with
    ⟨product', c, hproduct', hcompute, _hdebit, _hiff, _hraised, hoff, _hshort⟩
  rw [hmul] at hproduct'
  cases hproduct'
  exact ⟨⟨hpos, hrpos, hlt⟩, hmul, hlowered, c, hcompute, hoff hlowered⟩

/-- A rate that is just below a midpoint is given as if it were on it. -/
theorem credit_ne_roundAway :
    let amount : Decimal := ⟨false, 1, 2, by decide, by decide⟩
    let rate : Decimal := ⟨false, 10000000049999999999999999995, 28, by decide, by decide⟩
    let credit : Decimal := ⟨false, 100000001, 10, by decide, by decide⟩
    0 < amount.roundAmount.value ∧ 0 < rate.value ∧
      amount.roundAmount.value * rate.value < 10 ^ 18 ∧
      compute amount rate = .ok ⟨amount, credit⟩ ∧
      credit.value ≠ roundAway balancePlaces (amount.roundAmount.value * rate.value) := by
  intro amount rate credit
  have hround : amount.roundAmount = amount := by decide
  have hamount : amount.roundAmount.value = 1 / 100 := by
    rw [hround]
    norm_num [amount, value, coefficient]
  have hrate : rate.value = 10000000049999999999999999995 / 10 ^ 28 := by
    norm_num [rate, value, coefficient]
  have hcredit : credit.value = 100000001 / 10 ^ 10 := by
    norm_num [credit, value, coefficient]
  have honce : roundAway balancePlaces (amount.roundAmount.value * rate.value) =
      (100000000 : Nat) / 10 ^ balancePlaces := by
    rw [hamount, hrate]
    apply roundAway_eq_lower <;> norm_num [balancePlaces]
  refine ⟨by norm_num [hamount], by norm_num [hrate], by norm_num [hamount, hrate],
    by decide +kernel, ?_⟩
  rw [honce, hcredit]
  norm_num [balancePlaces]

end Conversion

end CurrencyWallet
