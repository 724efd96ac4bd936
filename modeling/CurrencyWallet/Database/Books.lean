import CurrencyWallet.Database.Address
import CurrencyWallet.Database.Conversation

/-!
# The books in a database

The operations of the ledger as conversations with a database. An update that finds no
row tells nothing more; only then a second statement asks whether the wallet exists, so
as to tell a missing wallet from missing funds. No update is ever sent twice.
-/

namespace CurrencyWallet

namespace Database

/-- Part of a conversation that may fail. -/
abbrev BooksM := ExceptT LedgerError Conversation

/-- Violation of a uniqueness constraint. -/
def uniqueViolation : String := "23505"

/-- A number too large for its column. -/
def numericOutOfRange : String := "22003"

/-- Opens a connection. The address is read first, and the server may refuse it. -/
def connect (address : String) (link : Link) (refusal : Option ServerError) :
    Except LedgerError Unit :=
  match readAddress address with
  | .error fault => .error (.database (.configuration fault.message))
  | .ok place =>
      match link.obstacle? place, refusal with
      | some reason, _ => .error (.database (.communication reason))
      | none, some e => .error (.database (.server e))
      | none, none => .ok ()

/-- Sends a command. What a fault means is up to the command. -/
def send (c : Command) (onFault : DatabaseFault → LedgerError) : BooksM (Option Row) := do
  match ← (Conversation.ask c .finished : Conversation Answer) with
  | .row r => return some r
  | .done => return none
  | .fault f => throw (onFault f)

/-- A row that is not of the kind asked for. -/
def unexpectedRow {α : Type} : BooksM α :=
  throw (.database (.protocol "unexpected row"))

def balances (user : UserId) : BooksM Balances := do
  match ← send (.execute .selectWallet [.id user]) .database with
  | some (.wallet b) => return b.onWire
  | some _ => unexpectedRow
  | none => throw (.walletNotFound user)

def walletExists (user : UserId) : BooksM Bool := do
  match ← send (.execute .walletExists [.id user]) .database with
  | some (.flag b) => return b
  | some _ => unexpectedRow
  | none => throw (.database .rowNotFound)

/-- The currency named when a balance grows too large for its column. -/
def receiving : Mutation → Currency
  | .deposit currency _ => currency
  | .withdraw currency _ => currency
  | .exchange _ target _ _ => target

def updateError (m : Mutation) : DatabaseFault → LedgerError
  | .server e =>
      if e.state = numericOutOfRange then .amountOutOfRange (receiving m)
      else .database (.server e)
  | f => .database f

/-- The parameters of the update: the amounts in the order of their numbers, and the
user id at the end. -/
def updateParameters (user : UserId) (m : Mutation) : List Parameter :=
  m.amounts.map (fun d => .decimal d.onWire) ++ [.id user]

def apply (user : UserId) (m : Mutation) : BooksM Balances := do
  liftExcept m.validate
  liftExcept m.checkRange
  match ← send (.execute (.updateWallet m.update) (updateParameters user m)) (updateError m) with
  | some (.wallet b) => return b.onWire
  | some _ => unexpectedRow
  | none =>
      match m.debitLeg? with
      | none => throw (.walletNotFound user)
      | some (currency, requested) =>
          if ← walletExists user then throw (.insufficientFunds currency requested)
          else throw (.walletNotFound user)
where
  liftExcept : Except LedgerError Unit → BooksM Unit
    | .ok () => pure ()
    | .error e => throw e

def registrationError (u : NewUser) : DatabaseFault → LedgerError
  | .server e =>
      if e.state = uniqueViolation ∧ e.constraint = some "users_username_key" then
        .usernameTaken u.username
      else if e.state = uniqueViolation ∧ e.constraint = some "users_email_key" then
        .emailTaken u.email
      else .database (.server e)
  | f => .database f

/-- Registers a user and opens an empty wallet, in one transaction. -/
def register (u : NewUser) : BooksM UserId := do
  let _ ← send .begin .database
  let parameters := [.text u.username, .text u.email, .text u.passwordHash]
  match ← send (.execute .insertUser parameters) (registrationError u) with
  | some (.id user) =>
      let _ ← send (.execute .insertWallet [.id user]) .database
      let _ ← send .commit .database
      return user
  | some _ => unexpectedRow
  | none => throw (.database .rowNotFound)

def findUser (username : String) : BooksM User := do
  match ← send (.execute .selectUser [.text username]) .database with
  | some (.user u) => return u
  | some _ => unexpectedRow
  | none => throw (.userNotFound username)

end Database

end CurrencyWallet
