import CurrencyWallet.Proofs.Rates.Quote
import CurrencyWallet.Proofs.Service.Exchange

/-!
# What an operation does to the books

Each operation of the desk either fails and leaves the books alone, or books one mutation
whose amounts have passed the checks. An exchange moves quotes about on the way, but no
money before the last step. For whoever only asks about the books, that is one relation.
-/

namespace CurrencyWallet

/-!
## Conversions
-/

section Compute

variable {amount rate : Decimal} {c : Conversion} (h : Conversion.compute amount rate = .ok c)

include h

theorem compute_eq_ok : c.debit = amount.roundAmount ∧ 0 < c.debit.value ∧
    exists product, c.debit.mul? rate = some product ∧ c.credit = product.roundBalance := by
  unfold Conversion.compute at h
  dsimp only at h
  split at h
  next =>
    cases h
  next hpos =>
    rw [← Decimal.value_le_value_iff, Decimal.value_zero, not_le] at hpos
    split at h
    next product hproduct =>
      cases h
      exact ⟨rfl, hpos, product, hproduct, rfl⟩
    next =>
      cases h

theorem isPositive_of_compute (hrate : 0 < rate.value) (source target : Currency) :
    (Mutation.exchange source target c.debit c.credit).IsPositive := by
  rcases compute_eq_ok h with ⟨_hdebit, hpos, product, hproduct, hcredit⟩
  constructor
  · exact hpos
  · rw [hcredit]
    exact Decimal.round_nonneg _ (Decimal.mul?_nonneg hproduct hpos hrate)

theorem fitsPlaces_of_compute (source target : Currency) :
    (Mutation.exchange source target c.debit c.credit).FitsPlaces := by
  rcases compute_eq_ok h with ⟨hdebit, _hpos, product, _hproduct, hcredit⟩
  intro x hx
  have hx' : x = c.debit ∨ x = c.credit := by simpa [Mutation.amounts, Mutation.legs] using hx
  rcases hx' with rfl | rfl
  · rw [hdebit]
    exact Nat.le_trans (Decimal.scale_round_le _ _) (by decide)
  · rw [hcredit]
    exact Decimal.scale_round_le _ _

end Compute

namespace Desk

/-!
## What the operations do
-/

theorem allowedCurrency_eq_ok {code : String} {amount : Decimal} {c : Currency}
    (h : allowedCurrency code amount = .ok c) :
    0 < amount.value ∧ Currency.parse code = .ok c := by
  rcases bind_eq_ok_iff.mp h with ⟨u, hpos, hcode⟩
  exact ⟨requirePositive_eq_ok_iff.mp hpos, mapError_eq_ok_iff.mp hcode⟩

section Operations

variable (d : Desk) (user : UserId)

def Fails {α : Type} (d : Desk) (outcome : Except ServiceError α × Desk) : Prop :=
  exists e d', outcome = (.error e, d') ∧ d'.ledger = d.ledger

theorem apply_cases (m : Mutation) :
    d.Fails (d.apply user m) ∨
      exists b, d.ledger.Booked user m b ∧
        d.apply user m = (.ok b, { d with ledger := d.ledger.openWallet user b }) := by
  unfold apply
  rcases Ledger.apply_cases d.ledger user m with ⟨e, happly⟩ | ⟨b, hbooked, happly⟩
  · left
    rw [happly]
    exact ⟨.ledger e, d, rfl, rfl⟩
  · right
    rw [happly]
    exact ⟨b, hbooked, rfl⟩

theorem register_cases (id : UserId) (u : NewUser) :
    d.Fails (d.register id u) ∨
      exists users, d.register id u =
        (.ok id, { d with ledger := { d.ledger.openWallet id .zero with users := users } }) := by
  unfold register
  rcases Ledger.register_cases d.ledger id (.ofMilliseconds d.quotes.clock) u
    with ⟨e, hregister⟩ | ⟨users, hregister⟩
  · left
    rw [hregister]
    exact ⟨.ledger e, d, rfl, rfl⟩
  · right
    rw [hregister]
    exact ⟨users, rfl⟩

theorem allowed_cases (f : Currency -> Mutation) (code : String) (amount : Decimal) :
    let outcome := match allowedCurrency code amount with
      | .ok c => d.apply user (f c)
      | .error e => (.error e, d)
    d.Fails outcome ∨
      exists c b, 0 < amount.value ∧ Currency.parse code = .ok c ∧
        d.ledger.Booked user (f c) b ∧
        outcome = (.ok b, { d with ledger := d.ledger.openWallet user b }) := by
  cases hallowed : allowedCurrency code amount with
  | error e =>
      left
      exact ⟨e, d, rfl, rfl⟩
  | ok c =>
      rcases allowedCurrency_eq_ok hallowed with ⟨hpos, hcode⟩
      rcases d.apply_cases user (f c) with hfails | ⟨b, hbooked, happly⟩
      · left
        exact hfails
      · right
        exact ⟨c, b, hpos, hcode, hbooked, happly⟩

theorem deposit_cases (code : String) (amount : Decimal) :
    d.Fails (d.deposit user code amount) ∨
      exists c b, 0 < amount.value ∧ Currency.parse code = .ok c ∧
        d.ledger.Booked user (.deposit c amount) b ∧
        d.deposit user code amount =
          (.ok b, { d with ledger := d.ledger.openWallet user b }) :=
  d.allowed_cases user (fun c => .deposit c amount) code amount

theorem withdraw_cases (code : String) (amount : Decimal) :
    d.Fails (d.withdraw user code amount) ∨
      exists c b, 0 < amount.value ∧ Currency.parse code = .ok c ∧
        d.ledger.Booked user (.withdraw c amount) b ∧
        d.withdraw user code amount =
          (.ok b, { d with ledger := d.ledger.openWallet user b }) :=
  d.allowed_cases user (fun c => .withdraw c amount) code amount

/-- Everything that has been checked, computed and booked when an exchange succeeds. -/
structure Deal (l : Ledger) (user : UserId) (source target : String) (amount : Decimal)
    (pair : CurrencyPair) (rate : Decimal) (c : Conversion) (b : Balances) : Prop where
  amount_pos : 0 < amount.value
  codes : parsePair source target = .ok pair
  distinct : pair.source ≠ pair.target
  rate_pos : 0 < rate.value
  computed : Conversion.compute amount rate = .ok c
  booked : l.Booked user (.exchange pair.source pair.target c.debit c.credit) b

theorem exchange_cases (deadline : Option Nat) (source target : String) (amount : Decimal) :
    d.Fails (d.exchange deadline user source target amount) ∨
      exists pair rate c b quotes, Deal d.ledger user source target amount pair rate c b ∧
        d.exchange deadline user source target amount =
          (.ok ⟨c.credit, c.debit, rate, b⟩, ⟨d.ledger.openWallet user b, quotes⟩) := by
  have hends := d.exchange_ends deadline user source target amount
  generalize d.exchange deadline user source target amount = outcome at hends ⊢
  cases hends with
  | refused _hrefused =>
      exact Or.inl ⟨_, _, rfl, rfl⟩
  | unquoted _hallowed _hquote =>
      exact Or.inl ⟨_, _, rfl, rfl⟩
  | unreadable _hallowed _hquote _hrate =>
      exact Or.inl ⟨_, _, rfl, rfl⟩
  | uncomputed _hallowed _hquote _hrate _hcompute =>
      exact Or.inl ⟨_, _, rfl, rfl⟩
  | unbooked _hallowed _hquote _hrate _hcompute _hbook =>
      exact Or.inl ⟨_, _, rfl, rfl⟩
  | booked hallowed _hquote hrate hcompute hbook =>
      right
      have hcodes := parsePair_eq_ok_iff.mpr ⟨hallowed.source_named, hallowed.target_named⟩
      exact ⟨_, _, _, _, _, ⟨hallowed.amount_pos, hcodes, hallowed.distinct,
        value_pos_of_parseRate hrate, hcompute, hbook⟩, rfl⟩

end Operations

end Desk

/-!
## The books afterwards
-/

/-- What an operation for a user may leave in the books: what was there, or that and a
mutation with positive amounts. -/
inductive Ledger.Entered (l : Ledger) (user : UserId) : Ledger -> Prop where
  | nothing : Entered l user l
  | mutation {m : Mutation} {b : Balances} (hm : m.IsPositive) (hbooked : l.Booked user m b) :
      Entered l user (l.openWallet user b)

theorem Ledger.Entered.every_withinBounds {l l' : Ledger} {user : UserId}
    (h : l.Entered user l') (hl : l.Every Balances.WithinBounds) :
    l'.Every Balances.WithinBounds := by
  cases h with
  | nothing =>
      exact hl
  | mutation hm hbooked =>
      exact every_withinBounds_of_booked hl hm hbooked

theorem Ledger.Entered.isSome_get? {l l' : Ledger} {user id : UserId} (h : l.Entered user l')
    (hid : (l.wallets.get? id).isSome) : (l'.wallets.get? id).isSome := by
  cases h with
  | nothing =>
      exact hid
  | mutation _hm _hbooked =>
      exact isSome_get?_openWallet l user _ hid

namespace Desk

theorem ledger_of_fails {α : Type} {d : Desk} {outcome : Except ServiceError α × Desk}
    (h : d.Fails outcome) : outcome.2.ledger = d.ledger := by
  rcases h with ⟨e, d', houtcome, hsame⟩
  rw [houtcome]
  exact hsame

theorem entered_of_fails {α : Type} {d : Desk} {outcome : Except ServiceError α × Desk}
    (user : UserId) (h : d.Fails outcome) : d.ledger.Entered user outcome.2.ledger := by
  rw [ledger_of_fails h]
  exact .nothing

section Entered

variable (d : Desk) (user : UserId)

theorem deposit_entered (code : String) (amount : Decimal) :
    d.ledger.Entered user (d.deposit user code amount).2.ledger := by
  rcases d.deposit_cases user code amount with hfails | ⟨c, b, hpos, _hcode, hbooked, hdeposit⟩
  · exact entered_of_fails user hfails
  · have hm : (Mutation.deposit c amount).IsPositive := hpos
    rw [hdeposit]
    exact .mutation hm hbooked

theorem withdraw_entered (code : String) (amount : Decimal) :
    d.ledger.Entered user (d.withdraw user code amount).2.ledger := by
  rcases d.withdraw_cases user code amount with hfails | ⟨c, b, hpos, _hcode, hbooked, hwithdraw⟩
  · exact entered_of_fails user hfails
  · have hm : (Mutation.withdraw c amount).IsPositive := hpos
    rw [hwithdraw]
    exact .mutation hm hbooked

theorem exchange_entered (deadline : Option Nat) (source target : String) (amount : Decimal) :
    d.ledger.Entered user (d.exchange deadline user source target amount).2.ledger := by
  rcases d.exchange_cases user deadline source target amount with
    hfails | ⟨pair, rate, c, b, quotes, hdeal, hexchange⟩
  · exact entered_of_fails user hfails
  · rw [hexchange]
    exact .mutation (isPositive_of_compute hdeal.computed hdeal.rate_pos _ _) hdeal.booked

end Entered

end Desk

end CurrencyWallet
