import CurrencyWallet.Amount
import CurrencyWallet.Json.Record
import CurrencyWallet.Ledger.User
import CurrencyWallet.Service.Error

/-!
# Requests

What clients ask for. The fields of a request may be missing, and what is there
need not make sense; validation reports every field that is at fault, and makes
an exact decimal of the amount. Whether the amount is positive and the currency
supported is not asked here.
-/

namespace CurrencyWallet

/-- What is wrong with a field. -/
inductive FieldFault where
  /-- The field is missing or empty. -/
  | required
  /-- A currency code does not have three characters. -/
  | wrongLength
  /-- The field has the wrong form. -/
  | invalid
  /-- The amount is too large for a balance. -/
  | outOfRange
deriving DecidableEq

namespace FieldFault

def message : FieldFault → String
  | required => "is required"
  | wrongLength => "must be exactly 3 characters"
  | invalid => "is invalid"
  | outOfRange => "is out of range"

/-- Whether a character is an ASCII letter. -/
def isLetter (c : Char) : Bool :=
  ('a' ≤ c && c ≤ 'z') || ('A' ≤ c && c ≤ 'Z')

/-- What is wrong with a currency code: it has to be three ASCII letters. -/
def ofCode? : Option String → Option FieldFault
  | none => some required
  | some code =>
      if code.isEmpty then some required
      else if code.length ≠ 3 then some wrongLength
      else if code.toList.all isLetter then none
      else some invalid

/-- The amount that a client sent, or what is wrong with it. -/
def checkAmount : Option Binary64 → Except FieldFault Decimal
  | none => .error required
  | some x =>
      match Decimal.ofClient x with
      | .error _ => .error invalid
      | .ok amount => if amount.InBalanceRange then .ok amount else .error outOfRange

/-- The report of a fault under the name of its field. -/
def entry (field : String) (fault : FieldFault) : String × String :=
  (field, fault.message)

def report (fields : List (String × Option FieldFault)) : ServiceError :=
  .invalidRequest (fields.filterMap (fun f => f.2.map (entry f.1)))

end FieldFault

/-- What a client sends to deposit or withdraw. -/
structure WalletTransaction where
  amount : Option Binary64
  currency : Option String
deriving DecidableEq

/-- A deposit or withdrawal without faults in its fields. -/
structure ValidTransaction where
  amount : Decimal
  /-- The code of the currency, as it was sent. -/
  currency : String
deriving DecidableEq

namespace WalletTransaction

def validate (t : WalletTransaction) : Except ServiceError ValidTransaction :=
  match FieldFault.ofCode? t.currency, FieldFault.checkAmount t.amount with
  | none, .ok amount => .ok ⟨amount, t.currency.getD ""⟩
  | fault?, .ok _ => .error (FieldFault.report [("currency", fault?)])
  | fault?, .error fault =>
      .error (FieldFault.report [("currency", fault?), ("amount", some fault)])

/-- Reads the JSON form, in which every field may be missing or null. -/
def ofJson? (j : Json) : Option WalletTransaction :=
  match j.optionalFields? ["amount", "currency"] with
  | some [amount, currency] =>
      match Json.nullable? Json.binary64? amount, Json.nullable? Json.text? currency with
      | some amount, some currency => some ⟨amount, currency⟩
      | _, _ => none
  | _ => none

end WalletTransaction

/-- What a client sends to exchange. -/
structure ExchangeRequest where
  source : Option String
  target : Option String
  amount : Option Binary64
deriving DecidableEq

/-- An exchange without faults in its fields. -/
structure ValidExchange where
  /-- The code of the currency given away, as it was sent. -/
  source : String
  /-- The code of the currency received, as it was sent. -/
  target : String
  amount : Decimal
deriving DecidableEq

namespace ExchangeRequest

def validate (r : ExchangeRequest) : Except ServiceError ValidExchange :=
  let codes := [("from_currency", FieldFault.ofCode? r.source),
    ("to_currency", FieldFault.ofCode? r.target)]
  match FieldFault.ofCode? r.source, FieldFault.ofCode? r.target,
    FieldFault.checkAmount r.amount with
  | none, none, .ok amount => .ok ⟨r.source.getD "", r.target.getD "", amount⟩
  | _, _, .ok _ => .error (FieldFault.report codes)
  | _, _, .error fault => .error (FieldFault.report (codes ++ [("amount", some fault)]))

/-- Reads the JSON form, in which every field may be missing or null. -/
def ofJson? (j : Json) : Option ExchangeRequest :=
  match j.optionalFields? ["from_currency", "to_currency", "amount"] with
  | some [source, target, amount] =>
      match Json.nullable? Json.text? source, Json.nullable? Json.text? target,
        Json.nullable? Json.binary64? amount with
      | some source, some target, some amount => some ⟨source, target, amount⟩
      | _, _, _ => none
  | _ => none

end ExchangeRequest

/-- What a client asks for. The user is named by the text of an id. -/
inductive Request where
  | register (user : NewUser)
  | balance (user : String)
  | deposit (user : String) (body : WalletTransaction)
  | withdraw (user : String) (body : WalletTransaction)
  | rates
  | exchange (user : String) (body : ExchangeRequest)
deriving DecidableEq

end CurrencyWallet
