import CurrencyWallet.Ledger.Basic
import CurrencyWallet.Service.Quotes

/-!
# The desk

The desk serves users with the books in one hand and the quotes in the other.
An operation first refuses what the rules do not allow, and only then turns to
the books.

An exchange has three steps: it gets a quote, computes what is taken and what is
given, and books both at once. Only the last step changes the books.
-/

namespace CurrencyWallet

/-- The amounts of an exchange. -/
structure Conversion where
  /-- What is taken. -/
  debit : Decimal
  /-- What is given. -/
  credit : Decimal
deriving DecidableEq

/-- Computes what is given for an amount. The amount is rounded before, and the
product is fitted to the digits of a balance. -/
def Conversion.compute (amount rate : Decimal) : Except ServiceError Conversion :=
  let debit := amount.roundAmount
  if debit ≤ .zero then .error .invalidAmount
  else
    match debit.mul? rate with
    | some product => .ok ⟨debit, product.roundBalance⟩
    | none => .error .invalidAmount

/-- What came of an exchange. -/
structure ExchangeOutcome where
  exchangedAmount : Decimal
  debitedAmount : Decimal
  rate : Decimal
  newBalance : Balances
deriving DecidableEq

/-- A service in operation. -/
structure Desk where
  ledger : Ledger
  quotes : Quotes

namespace Desk

def start (ledger : Ledger) (policy : CachePolicy) (provider : Provider) : Desk :=
  ⟨ledger, .start policy provider⟩

def advance (d : Desk) (milliseconds : Nat) : Desk :=
  { d with quotes := d.quotes.advance milliseconds }

def setProvider (d : Desk) (provider : Provider) : Desk :=
  { d with quotes := { d.quotes with provider := provider } }

/-- Only positive amounts can be moved. -/
def requirePositive (amount : Decimal) : Except ServiceError Unit :=
  if amount ≤ .zero then .error .invalidAmount else .ok ()

def parseCurrency (code : String) : Except ServiceError Currency :=
  (Currency.parse code).mapError .currency

def parsePair (source target : String) : Except ServiceError CurrencyPair := do
  let source ← parseCurrency source
  let target ← parseCurrency target
  return ⟨source, target⟩

/-!
### Users
-/

def register (d : Desk) (id : UserId) (user : NewUser) : Except ServiceError UserId × Desk :=
  let (result, ledger) := d.ledger.register id (.ofMilliseconds d.quotes.clock) user
  (result.mapError .ledger, { d with ledger := ledger })

def findUser (d : Desk) (username : String) : Except ServiceError User :=
  (d.ledger.findUser username).mapError .ledger

/-!
### Wallets
-/

def balances (d : Desk) (user : UserId) : Except ServiceError Balances :=
  (d.ledger.balances user).mapError .ledger

def apply (d : Desk) (user : UserId) (m : Mutation) : Except ServiceError Balances × Desk :=
  let (result, ledger) := d.ledger.apply user m
  (result.mapError .ledger, { d with ledger := ledger })

/-- The currency of a deposit or withdrawal that the rules allow. -/
def allowedCurrency (code : String) (amount : Decimal) : Except ServiceError Currency := do
  requirePositive amount
  parseCurrency code

def deposit (d : Desk) (user : UserId) (code : String) (amount : Decimal) :
    Except ServiceError Balances × Desk :=
  match allowedCurrency code amount with
  | .ok currency => d.apply user (.deposit currency amount)
  | .error e => (.error e, d)

def withdraw (d : Desk) (user : UserId) (code : String) (amount : Decimal) :
    Except ServiceError Balances × Desk :=
  match allowedCurrency code amount with
  | .ok currency => d.apply user (.withdraw currency amount)
  | .error e => (.error e, d)

/-!
### Rates and exchange
-/

def getTable (d : Desk) (deadline : Option Nat) : Except ServiceError RateTable × Desk :=
  let (result, quotes) := d.quotes.getTable deadline
  (result, { d with quotes := quotes })

def quote (d : Desk) (deadline : Option Nat) (pair : CurrencyPair) :
    Except ServiceError String × Desk :=
  let (result, quotes) := d.quotes.getRate deadline pair
  (result, { d with quotes := quotes })

def getRate (d : Desk) (deadline : Option Nat) (source target : String) :
    Except ServiceError String × Desk :=
  match parsePair source target with
  | .ok pair => d.quote deadline pair
  | .error e => (.error e, d)

def allowedPair (source target : String) (amount : Decimal) :
    Except ServiceError CurrencyPair := do
  requirePositive amount
  let pair ← parsePair source target
  if pair.IsIdentity then throw (.sameCurrency pair.source)
  return pair

def priced (amount : Decimal) (quoted : String) : Except ServiceError (Decimal × Conversion) := do
  let rate ← (parseRate quoted).mapError .rate
  return (rate, ← Conversion.compute amount rate)

def settle (d : Desk) (user : UserId) (pair : CurrencyPair) (rate : Decimal) (c : Conversion) :
    Except ServiceError ExchangeOutcome × Desk :=
  let (result, d) := d.apply user (.exchange pair.source pair.target c.debit c.credit)
  (result.map (fun b => ⟨c.credit, c.debit, rate, b⟩), d)

/-- Exchanges an amount of one currency for another at the quoted rate. -/
def exchange (d : Desk) (deadline : Option Nat) (user : UserId) (source target : String)
    (amount : Decimal) : Except ServiceError ExchangeOutcome × Desk :=
  match allowedPair source target amount with
  | .error e => (.error e, d)
  | .ok pair =>
      match d.quote deadline pair with
      | (.error e, d) => (.error e, d)
      | (.ok quoted, d) =>
          match priced amount quoted with
          | .error e => (.error e, d)
          | .ok (rate, conversion) => d.settle user pair rate conversion

end Desk

end CurrencyWallet
