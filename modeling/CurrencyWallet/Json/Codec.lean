import CurrencyWallet.Json.Record
import CurrencyWallet.Ledger.Mutation
import CurrencyWallet.Ledger.User
import CurrencyWallet.Power

/-!
# The JSON forms of the domain

How currencies, decimals, ids, balances, mutations and users are written as
JSON, and what is read as one of them. Decimals are written as texts, so no
digit and no trailing zero is lost.
-/

namespace CurrencyWallet

namespace Currency

def toJson (c : Currency) : Json :=
  .string c.code

/-- Reads a code, which may also stand as the name of a null value. -/
def ofJson? : Json → Option Currency
  | .string s => ofCode? s
  | .object [(name, .null)] => ofCode? name
  | _ => none

end Currency

namespace CurrencyPair

def toJson (p : CurrencyPair) : Json :=
  .object [("from", p.source.toJson), ("to", p.target.toJson)]

def ofJson? (j : Json) : Option CurrencyPair :=
  match j.fields? ["from", "to"] with
  | some [source, target] =>
      match Currency.ofJson? source, Currency.ofJson? target with
      | some source, some target => some ⟨source, target⟩
      | _, _ => none
  | _ => none

end CurrencyPair

namespace Decimal

def toJson (d : Decimal) : Json :=
  .string (toString d)

/-- The decimal that is meant by a number. Integers of 64 bits, with a sign or
without, are exact; any other number is first brought to the binary format and
stands for the shortest decimal that does so too. -/
def ofNumeral? (n : Numeral) : Option Decimal :=
  let limit := if n.negative then 2 ^ (63 : Nat) + 1 else 2 ^ (64 : Nat)
  let isZeroWithSign := n.negative ∧ n.digits = 0
  if n.IsInteger ∧ n.digits < limit ∧ ¬ isZeroWithSign then ofParts? n.negative n.digits 0
  else n.toBinary64?.bind (fun x => ofChars? x.toChars)

/-- Reads a decimal from its text or from a number. -/
def ofJson? : Json → Option Decimal
  | .string s => parse? s
  | .number n => ofNumeral? n
  | _ => none

end Decimal

namespace UserId

def toJson (id : UserId) : Json :=
  .string (toString id)

def ofJson? : Json → Option UserId
  | .string s => parse? s
  | _ => none

end UserId

namespace Timestamp

def toJson (t : Timestamp) : Json :=
  .string (toString t)

def ofJson? : Json → Option Timestamp
  | .string s => parse? s
  | _ => none

end Timestamp

namespace Balances

/-- Balances are written with one member for each currency. -/
def toJson (b : Balances) : Json :=
  .object [("balance_rub", b.rub.toJson), ("balance_usd", b.usd.toJson),
    ("balance_eur", b.eur.toJson)]

def ofJson? (j : Json) : Option Balances :=
  match j.fields? ["balance_rub", "balance_usd", "balance_eur"] with
  | some [rub, usd, eur] =>
      match Decimal.ofJson? rub, Decimal.ofJson? usd, Decimal.ofJson? eur with
      | some rub, some usd, some eur => some ⟨rub, usd, eur⟩
      | _, _, _ => none
  | _ => none

end Balances

namespace Mutation

/-- A mutation is written as an object whose only member is named for its
kind. -/
def toJson : Mutation → Json
  | deposit currency amount =>
      .object [("Deposit",
        .object [("currency", currency.toJson), ("amount", amount.toJson)])]
  | withdraw currency amount =>
      .object [("Withdraw",
        .object [("currency", currency.toJson), ("amount", amount.toJson)])]
  | exchange source target debit credit =>
      .object [("Exchange",
        .object [("from", source.toJson), ("to", target.toJson), ("debit", debit.toJson),
          ("credit", credit.toJson)])]

def legOfJson? (j : Json) : Option (Currency × Decimal) :=
  match j.fields? ["currency", "amount"] with
  | some [currency, amount] =>
      match Currency.ofJson? currency, Decimal.ofJson? amount with
      | some currency, some amount => some (currency, amount)
      | _, _ => none
  | _ => none

def exchangeOfJson? (j : Json) : Option Mutation :=
  match j.fields? ["from", "to", "debit", "credit"] with
  | some [source, target, debit, credit] =>
      match Currency.ofJson? source, Currency.ofJson? target, Decimal.ofJson? debit,
        Decimal.ofJson? credit with
      | some source, some target, some debit, some credit =>
          some (exchange source target debit credit)
      | _, _, _, _ => none
  | _ => none

def ofJson? : Json → Option Mutation
  | .object [("Deposit", j)] => (legOfJson? j).map (fun leg => deposit leg.1 leg.2)
  | .object [("Withdraw", j)] => (legOfJson? j).map (fun leg => withdraw leg.1 leg.2)
  | .object [("Exchange", j)] => exchangeOfJson? j
  | _ => none

end Mutation

namespace User

/-- A user is written without the hash of the password. -/
def toJson (u : User) : Json :=
  .object [("id", u.id.toJson), ("username", .string u.username), ("email", .string u.email),
    ("created_at", u.createdAt.toJson)]

/-- Reads a user. The hash of the password must be there. -/
def ofJson? (j : Json) : Option User :=
  match j.fields? ["id", "username", "email", "password_hash", "created_at"] with
  | some [id, username, email, passwordHash, createdAt] =>
      match UserId.ofJson? id, username.text?, email.text?, passwordHash.text?,
        Timestamp.ofJson? createdAt with
      | some id, some username, some email, some passwordHash, some createdAt =>
          some ⟨id, username, email, passwordHash, createdAt⟩
      | _, _, _, _, _ => none
  | _ => none

end User

end CurrencyWallet
