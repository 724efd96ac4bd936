import CurrencyWallet.Proofs.Service.Operations
import CurrencyWallet.Service.Api

/-!
# What a request does to the books

A request for money that has no faults is an order: it names a wallet, the currencies, and
an amount that has been validated. An answered order is carried out as one mutation, and the
answer tells what has been booked. No other request touches a wallet, except that a
registration opens an empty one.
-/

namespace CurrencyWallet

inductive Order where
  | deposit (user : UserId) (currency : Currency) (amount : Decimal)
  | withdraw (user : UserId) (currency : Currency) (amount : Decimal)
  | exchange (user : UserId) (pair : CurrencyPair) (amount : Decimal)

namespace Order

def user : Order -> UserId
  | deposit user _ _ => user
  | withdraw user _ _ => user
  | exchange user _ _ => user

def currencies : Order -> List Currency
  | deposit _ currency _ => [currency]
  | withdraw _ currency _ => [currency]
  | exchange _ pair _ => [pair.source, pair.target]

def amount : Order -> Decimal
  | deposit _ _ amount => amount
  | withdraw _ _ amount => amount
  | exchange _ _ amount => amount

/-- The order is carried out as this mutation; with the contents of the wallet afterwards,
this is the answer to it. -/
inductive Carried : Order -> Mutation -> Balances -> Success -> Prop where
  | deposit {user : UserId} {c : Currency} {amount : Decimal} {b : Balances} :
      0 < amount.value ->
      Carried (.deposit user c amount) (.deposit c amount) b (.deposited b)
  | withdraw {user : UserId} {c : Currency} {amount : Decimal} {b : Balances} :
      0 < amount.value ->
      Carried (.withdraw user c amount) (.withdraw c amount) b (.withdrawn b)
  | exchange {user : UserId} {pair : CurrencyPair} {amount rate : Decimal} {conversion : Conversion}
      {b : Balances} :
      0 < rate.value ->
      Conversion.compute amount rate = .ok conversion ->
      Carried (.exchange user pair amount)
        (.exchange pair.source pair.target conversion.debit conversion.credit) b
        (.exchanged conversion.credit b)

end Order

namespace Request

def IsMovement : Request -> Prop
  | deposit _ _ => True
  | withdraw _ _ => True
  | exchange _ _ => True
  | _ => False

/-- The order that a request for money stands for, if the id, the fields and the codes of
the currencies can be read. -/
def order? : Request -> Option Order
  | deposit user body => do
      let user <- UserId.parse? user
      let t <- body.validate.toOption
      let currency <- (Currency.parse t.currency).toOption
      return .deposit user currency t.amount
  | withdraw user body => do
      let user <- UserId.parse? user
      let t <- body.validate.toOption
      let currency <- (Currency.parse t.currency).toOption
      return .withdraw user currency t.amount
  | exchange user body => do
      let user <- UserId.parse? user
      let t <- body.validate.toOption
      let source <- (Currency.parse t.source).toOption
      let target <- (Currency.parse t.target).toOption
      return .exchange user ⟨source, target⟩ t.amount
  | _ => none

end Request

/-- What answering a request makes of the books. -/
inductive Effect (l : Ledger) (id : UserId) :
    Request -> Except ServiceError Success -> Ledger -> Prop where
  | refused {r : Request} {e : ServiceError} : Effect l id r (.error e) l
  | shown {user : String} {b : Balances} : Effect l id (.balance user) (.ok (.balance b)) l
  | listed {table : RateTable} : Effect l id .rates (.ok (.rates table)) l
  | registered {user : NewUser} {users : Directory String User} :
      Effect l id (.register user) (.ok .registered)
        { l.openWallet id .zero with users := users }
  | carried {r : Request} {o : Order} {m : Mutation} {b : Balances} {s : Success} :
      r.order? = some o ->
      o.Carried m b s ->
      l.Booked o.user m b ->
      Effect l id r (.ok s) (l.openWallet o.user b)

/-!
## Reading requests
-/

theorem parseUser_eq_ok {text : String} {user : UserId} (h : Desk.parseUser text = .ok user) :
    UserId.parse? text = some user := by
  unfold Desk.parseUser at h
  split at h
  next user' hparse =>
    cases h
    exact hparse
  next =>
    cases h

theorem readTransaction_eq_ok {text : String} {body : WalletTransaction} {user : UserId}
    {t : ValidTransaction} (h : Desk.readTransaction text body = .ok (user, t)) :
    UserId.parse? text = some user ∧ body.validate = .ok t := by
  rcases bind_eq_ok_iff.mp h with ⟨user', huser, h⟩
  rcases bind_eq_ok_iff.mp h with ⟨t', hbody, h⟩
  cases h
  exact ⟨parseUser_eq_ok huser, hbody⟩

theorem readExchange_eq_ok {text : String} {body : ExchangeRequest} {user : UserId}
    {t : ValidExchange} (h : Desk.readExchange text body = .ok (user, t)) :
    UserId.parse? text = some user ∧ body.validate = .ok t := by
  rcases bind_eq_ok_iff.mp h with ⟨user', huser, h⟩
  rcases bind_eq_ok_iff.mp h with ⟨t', hbody, h⟩
  cases h
  exact ⟨parseUser_eq_ok huser, hbody⟩

/-!
## Answers
-/

namespace Desk

theorem Fails.effect {α : Type} {d : Desk} {outcome : Except ServiceError α × Desk}
    (h : d.Fails outcome) (id : UserId) (r : Request) (f : α -> Success) :
    Effect d.ledger id r (outcome.1.map f) outcome.2.ledger := by
  rcases h with ⟨e, d', houtcome, hsame⟩
  rw [houtcome, hsame]
  exact Effect.refused

theorem answer_effect (d : Desk) (deadline : Option Nat) (id : UserId) (r : Request) :
    Effect d.ledger id r (d.answer deadline id r).1 (d.answer deadline id r).2.ledger := by
  cases r with
  | register user =>
      rcases d.register_cases id user with hfails | ⟨users, hregister⟩
      · exact hfails.effect id _ _
      · rw [answer, hregister]
        exact Effect.registered
  | balance user =>
      rw [answer]
      cases parseUser user with
      | error e =>
          exact Effect.refused
      | ok user' =>
          dsimp only
          cases d.balances user' with
          | error e =>
              exact Effect.refused
          | ok b =>
              exact Effect.shown
  | rates =>
      rw [answer, getTable]
      rcases d.quotes.getTable deadline with ⟨table?, quotes⟩
      cases table? with
      | error e =>
          exact Effect.refused
      | ok table =>
          exact Effect.listed
  | deposit text body =>
      rw [answer]
      cases hread : readTransaction text body with
      | error e =>
          exact Effect.refused
      | ok order =>
          rcases order with ⟨user, t⟩
          rcases readTransaction_eq_ok hread with ⟨huser, hbody⟩
          rcases d.deposit_cases user t.currency t.amount with
            hfails | ⟨c, b, hpos, hcode, hbooked, hdeposit⟩
          · exact hfails.effect id _ _
          · dsimp only
            rw [hdeposit]
            have horder : (Request.deposit text body).order? = some (.deposit user c t.amount) := by
              simp [Request.order?, huser, hbody, hcode, Except.toOption]
            exact Effect.carried horder (Order.Carried.deposit hpos) hbooked
  | withdraw text body =>
      rw [answer]
      cases hread : readTransaction text body with
      | error e =>
          exact Effect.refused
      | ok order =>
          rcases order with ⟨user, t⟩
          rcases readTransaction_eq_ok hread with ⟨huser, hbody⟩
          rcases d.withdraw_cases user t.currency t.amount with
            hfails | ⟨c, b, hpos, hcode, hbooked, hwithdraw⟩
          · exact hfails.effect id _ _
          · dsimp only
            rw [hwithdraw]
            have horder : (Request.withdraw text body).order? = some (.withdraw user c t.amount) := by
              simp [Request.order?, huser, hbody, hcode, Except.toOption]
            exact Effect.carried horder (Order.Carried.withdraw hpos) hbooked
  | exchange text body =>
      rw [answer]
      cases hread : readExchange text body with
      | error e =>
          exact Effect.refused
      | ok order =>
          rcases order with ⟨user, t⟩
          rcases readExchange_eq_ok hread with ⟨huser, hbody⟩
          rcases d.exchange_cases user deadline t.source t.target t.amount with
            hfails | ⟨pair, rate, c, b, quotes, hdeal, hexchange⟩
          · exact hfails.effect id _ _
          · dsimp only
            rw [hexchange]
            rcases parsePair_eq_ok_iff.mp hdeal.codes with ⟨hsource, htarget⟩
            rw [← Currency.parse_eq_ok_iff] at hsource htarget
            have horder : (Request.exchange text body).order? = some (.exchange user pair t.amount) := by
              simp [Request.order?, huser, hbody, hsource, htarget, Except.toOption]
            exact Effect.carried horder (Order.Carried.exchange hdeal.rate_pos hdeal.computed)
              hdeal.booked

theorem handle_effect (d : Desk) (timeout : Nat) (id : UserId) (r : Request) :
    Effect d.ledger id r (d.handle timeout id r).1 (d.handle timeout id r).2.ledger :=
  d.answer_effect _ id r

end Desk

end CurrencyWallet
