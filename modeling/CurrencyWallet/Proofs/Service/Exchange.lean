import CurrencyWallet.Proofs.Ledger.Booking
import CurrencyWallet.Service.Desk

/-!
# How an exchange ends

An exchange is refused by the rules, gets no quote, gets one that is no rate, comes to no
amounts, is refused by the books, or is booked. `Exchanged` lists these ends, each with what was
found on the way and with the desk that it leaves behind. The quotes are asked only when the
rules allow the exchange, and the books change only in the last case.
-/

namespace CurrencyWallet

/-!
## Codes of currencies
-/

namespace Currency

def IsNamedBy (c : Currency) (text : String) : Prop :=
  text.map Char.toUpper = c.code

instance (c : Currency) (text : String) : Decidable (c.IsNamedBy text) :=
  inferInstanceAs (Decidable (text.map Char.toUpper = c.code))

theorem ofCode?_eq_some_iff {text : String} {c : Currency} : ofCode? text = some c <-> text = c.code := by
  constructor
  · intro h
    unfold ofCode? at h
    split at h <;> cases h <;> rfl
  · intro h
    rw [h, ofCode?_code]

theorem parse_eq_ok_iff {text : String} {c : Currency} : parse text = .ok c <-> c.IsNamedBy text := by
  rw [IsNamedBy, ← ofCode?_eq_some_iff, parse]
  cases ofCode? (text.map Char.toUpper) with
  | none =>
      simp
  | some c' =>
      simp

theorem IsNamedBy.unique {text : String} {c c' : Currency} (h : c.IsNamedBy text)
    (h' : c'.IsNamedBy text) : c = c' := by
  rw [← parse_eq_ok_iff] at h h'
  exact Except.ok.inj (h.symm.trans h')

end Currency

namespace Desk

/-!
## What the rules allow
-/

/-- The rules allow to exchange the amount: it is positive, and the texts name two different
currencies. -/
structure Allowed (source target : String) (amount : Decimal) (pair : CurrencyPair) : Prop where
  amount_pos : 0 < amount.value
  source_named : pair.source.IsNamedBy source
  target_named : pair.target.IsNamedBy target
  distinct : pair.source ≠ pair.target

theorem parsePair_eq_ok_iff {source target : String} {pair : CurrencyPair} :
    parsePair source target = .ok pair <->
      pair.source.IsNamedBy source ∧ pair.target.IsNamedBy target := by
  rw [← Currency.parse_eq_ok_iff, ← Currency.parse_eq_ok_iff]
  constructor
  · intro h
    rcases bind_eq_ok_iff.mp h with ⟨source', hsource, h⟩
    rcases bind_eq_ok_iff.mp h with ⟨target', htarget, h⟩
    cases h
    exact ⟨mapError_eq_ok_iff.mp hsource, mapError_eq_ok_iff.mp htarget⟩
  · intro h
    exact bind_eq_ok_iff.mpr ⟨_, mapError_eq_ok_iff.mpr h.left,
      bind_eq_ok_iff.mpr ⟨_, mapError_eq_ok_iff.mpr h.right, rfl⟩⟩

theorem requirePositive_eq_ok_iff {amount : Decimal} {u : Unit} :
    requirePositive amount = .ok u <-> 0 < amount.value := by
  rw [requirePositive, ← not_le, ← Decimal.value_zero, Decimal.value_le_value_iff]
  by_cases h : amount ≤ .zero
  · simp [h]
  · simp [h]

theorem allowedPair_eq_ok_iff {source target : String} {amount : Decimal} {pair : CurrencyPair} :
    allowedPair source target amount = .ok pair <-> Allowed source target amount pair := by
  constructor
  · intro h
    rcases bind_eq_ok_iff.mp h with ⟨u, hpos, h⟩
    rcases bind_eq_ok_iff.mp h with ⟨pair', hpair, h⟩
    rcases ite_throw_eq_ok_iff.mp h with ⟨hne, h⟩
    cases h
    rcases parsePair_eq_ok_iff.mp hpair with ⟨hsource, htarget⟩
    exact ⟨requirePositive_eq_ok_iff.mp hpos, hsource, htarget, hne⟩
  · intro h
    have hpair := parsePair_eq_ok_iff.mpr ⟨h.source_named, h.target_named⟩
    have hpos : requirePositive amount = .ok () := requirePositive_eq_ok_iff.mpr h.amount_pos
    exact bind_eq_ok_iff.mpr ⟨(), hpos, bind_eq_ok_iff.mpr ⟨pair, hpair,
      ite_throw_eq_ok_iff.mpr ⟨h.distinct, rfl⟩⟩⟩

theorem Allowed.unique {source target : String} {amount : Decimal} {pair pair' : CurrencyPair}
    (h : Allowed source target amount pair) (h' : Allowed source target amount pair') :
    pair = pair' := by
  rw [← allowedPair_eq_ok_iff] at h h'
  exact Except.ok.inj (h.symm.trans h')

/-!
## The ends of an exchange
-/

inductive Exchanged (d : Desk) (deadline : Option Nat) (user : UserId) (source target : String)
    (amount : Decimal) : Except ServiceError ExchangeOutcome × Desk -> Prop where
  | refused {e : ServiceError} :
      allowedPair source target amount = .error e ->
      Exchanged d deadline user source target amount (.error e, d)
  | unquoted {pair : CurrencyPair} {e : ServiceError} :
      Allowed source target amount pair ->
      (d.quote deadline pair).1 = .error e ->
      Exchanged d deadline user source target amount (.error e, (d.quote deadline pair).2)
  | unreadable {pair : CurrencyPair} {text : String} {e : RateError} :
      Allowed source target amount pair ->
      (d.quote deadline pair).1 = .ok text ->
      parseRate text = .error e ->
      Exchanged d deadline user source target amount (.error (.rate e), (d.quote deadline pair).2)
  | uncomputed {pair : CurrencyPair} {text : String} {rate : Decimal} {e : ServiceError} :
      Allowed source target amount pair ->
      (d.quote deadline pair).1 = .ok text ->
      parseRate text = .ok rate ->
      Conversion.compute amount rate = .error e ->
      Exchanged d deadline user source target amount (.error e, (d.quote deadline pair).2)
  | unbooked {pair : CurrencyPair} {text : String} {rate : Decimal} {c : Conversion}
      {e : LedgerError} :
      Allowed source target amount pair ->
      (d.quote deadline pair).1 = .ok text ->
      parseRate text = .ok rate ->
      Conversion.compute amount rate = .ok c ->
      d.ledger.outcome user (.exchange pair.source pair.target c.debit c.credit) = .error e ->
      Exchanged d deadline user source target amount
        (.error (.ledger e), (d.quote deadline pair).2)
  | booked {pair : CurrencyPair} {text : String} {rate : Decimal} {c : Conversion}
      {b : Balances} :
      Allowed source target amount pair ->
      (d.quote deadline pair).1 = .ok text ->
      parseRate text = .ok rate ->
      Conversion.compute amount rate = .ok c ->
      d.ledger.Booked user (.exchange pair.source pair.target c.debit c.credit) b ->
      Exchanged d deadline user source target amount
        (.ok ⟨c.credit, c.debit, rate, b⟩,
          { (d.quote deadline pair).2 with ledger := d.ledger.openWallet user b })

theorem ledger_quote (d : Desk) (deadline : Option Nat) (pair : CurrencyPair) :
    (d.quote deadline pair).2.ledger = d.ledger :=
  rfl

theorem priced_eq {amount rate : Decimal} {text : String} (h : parseRate text = .ok rate) :
    priced amount text = (Conversion.compute amount rate).map (fun c => (rate, c)) := by
  unfold priced
  rw [h]
  change (Conversion.compute amount rate >>= fun c => .ok (rate, c)) = _
  cases Conversion.compute amount rate with
  | error e =>
      rfl
  | ok c =>
      rfl

section Quoted

variable {d : Desk} {deadline : Option Nat} {pair : CurrencyPair} {source target text : String}
  {amount rate : Decimal} (hallowed : Allowed source target amount pair)

include hallowed

theorem exchange_of_unquoted (user : UserId) {e : ServiceError}
    (hquote : (d.quote deadline pair).1 = .error e) :
    d.exchange deadline user source target amount = (.error e, (d.quote deadline pair).2) := by
  rw [exchange, allowedPair_eq_ok_iff.mpr hallowed]
  dsimp only
  generalize d.quote deadline pair = quoted at hquote ⊢
  rcases quoted with ⟨quoted?, d'⟩
  cases hquote
  rfl

variable (hquote : (d.quote deadline pair).1 = .ok text)

include hquote

theorem exchange_of_quoted (user : UserId) :
    d.exchange deadline user source target amount =
      match priced amount text with
      | .error e => (.error e, (d.quote deadline pair).2)
      | .ok (rate, c) => (d.quote deadline pair).2.settle user pair rate c := by
  rw [exchange, allowedPair_eq_ok_iff.mpr hallowed]
  dsimp only
  generalize d.quote deadline pair = quoted at hquote ⊢
  rcases quoted with ⟨quoted?, d'⟩
  cases hquote
  rfl

theorem exchange_of_unreadable (user : UserId) {e : RateError} (hrate : parseRate text = .error e) :
    d.exchange deadline user source target amount =
      (.error (.rate e), (d.quote deadline pair).2) := by
  rw [exchange_of_quoted hallowed hquote, priced, hrate]
  rfl

variable (hrate : parseRate text = .ok rate)

include hrate

theorem exchange_of_uncomputed (user : UserId) {e : ServiceError}
    (hcompute : Conversion.compute amount rate = .error e) :
    d.exchange deadline user source target amount = (.error e, (d.quote deadline pair).2) := by
  rw [exchange_of_quoted hallowed hquote, priced_eq hrate, hcompute]
  rfl

theorem exchange_of_computed (user : UserId) {c : Conversion}
    (hcompute : Conversion.compute amount rate = .ok c) :
    d.exchange deadline user source target amount =
      (d.quote deadline pair).2.settle user pair rate c := by
  rw [exchange_of_quoted hallowed hquote, priced_eq hrate, hcompute]
  rfl

end Quoted

theorem settle_quote (d : Desk) (deadline : Option Nat) (user : UserId) (pair : CurrencyPair)
    (rate : Decimal) (c : Conversion) :
    (d.quote deadline pair).2.settle user pair rate c =
      match d.ledger.outcome user (.exchange pair.source pair.target c.debit c.credit) with
      | .error e => (.error (.ledger e), (d.quote deadline pair).2)
      | .ok b => (.ok ⟨c.credit, c.debit, rate, b⟩,
          { (d.quote deadline pair).2 with ledger := d.ledger.openWallet user b }) := by
  rw [settle, apply, ledger_quote, Ledger.apply]
  cases d.ledger.outcome user (.exchange pair.source pair.target c.debit c.credit) with
  | error e =>
      rfl
  | ok b =>
      rfl

theorem exchange_ends (d : Desk) (deadline : Option Nat) (user : UserId) (source target : String)
    (amount : Decimal) :
    d.Exchanged deadline user source target amount
      (d.exchange deadline user source target amount) := by
  cases hallowed : allowedPair source target amount with
  | error e =>
      rw [exchange, hallowed]
      exact Exchanged.refused hallowed
  | ok pair =>
      rw [allowedPair_eq_ok_iff] at hallowed
      cases hquote : (d.quote deadline pair).1 with
      | error e =>
          rw [exchange_of_unquoted hallowed user hquote]
          exact Exchanged.unquoted hallowed hquote
      | ok text =>
          cases hrate : parseRate text with
          | error e =>
              rw [exchange_of_unreadable hallowed hquote user hrate]
              exact Exchanged.unreadable hallowed hquote hrate
          | ok rate =>
              cases hcompute : Conversion.compute amount rate with
              | error e =>
                  rw [exchange_of_uncomputed hallowed hquote hrate user hcompute]
                  exact Exchanged.uncomputed hallowed hquote hrate hcompute
              | ok c =>
                  rw [exchange_of_computed hallowed hquote hrate user hcompute, settle_quote]
                  cases hbook : d.ledger.outcome user
                      (.exchange pair.source pair.target c.debit c.credit) with
                  | error e =>
                      exact Exchanged.unbooked hallowed hquote hrate hcompute hbook
                  | ok b =>
                      exact Exchanged.booked hallowed hquote hrate hcompute
                        (Ledger.outcome_eq_ok_iff.mp hbook)

theorem quoted_of_exchange {d : Desk} {deadline : Option Nat} {user : UserId}
    {source target : String} {amount : Decimal} {o : ExchangeOutcome}
    (h : (d.exchange deadline user source target amount).1 = .ok o) :
    exists pair text, Allowed source target amount pair ∧
      (d.quote deadline pair).1 = .ok text ∧ parseRate text = .ok o.rate := by
  have hends := d.exchange_ends deadline user source target amount
  generalize d.exchange deadline user source target amount = outcome at hends h
  cases hends with
  | booked hallowed hquote hrate _hcompute _hbook =>
      cases h
      exact ⟨_, _, hallowed, hquote, hrate⟩
  | _ =>
      cases h

/-- An exchange that the rules allow asks for the quote of its pair, and for nothing else. -/
theorem quotes_exchange_of_allowed {d : Desk} {source target : String} {amount : Decimal}
    {pair : CurrencyPair} (h : Allowed source target amount pair) (deadline : Option Nat)
    (user : UserId) :
    (d.exchange deadline user source target amount).2.quotes =
      (d.quotes.getRate deadline pair).2 := by
  have hends := d.exchange_ends deadline user source target amount
  generalize d.exchange deadline user source target amount = outcome at hends
  cases hends with
  | refused hrefused =>
      rw [allowedPair_eq_ok_iff.mpr h] at hrefused
      cases hrefused
  | unquoted hallowed _hquote =>
      rw [h.unique hallowed]
      rfl
  | unreadable hallowed _hquote _hrate =>
      rw [h.unique hallowed]
      rfl
  | uncomputed hallowed _hquote _hrate _hcompute =>
      rw [h.unique hallowed]
      rfl
  | unbooked hallowed _hquote _hrate _hcompute _hbook =>
      rw [h.unique hallowed]
      rfl
  | booked hallowed _hquote _hrate _hcompute _hbook =>
      rw [h.unique hallowed]
      rfl

end Desk

end CurrencyWallet
