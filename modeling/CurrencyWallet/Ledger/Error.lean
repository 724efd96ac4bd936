import CurrencyWallet.Balances
import CurrencyWallet.Decimal.Printer
import CurrencyWallet.UserId

/-!
# Ledger errors

Why the books refuse a request, or cannot be reached. A refusal is part of the business;
a fault of the database or of its schema is not.
-/

namespace CurrencyWallet

/-- What a database server answers when it does not carry out a statement. -/
structure ServerError where
  state : String
  /-- The constraint that was violated, if that is what happened. -/
  constraint : Option String
  message : String
deriving DecidableEq

/-- Why a statement has no answer. -/
inductive DatabaseFault where
  | server (error : ServerError)
  | configuration (detail : String)
  | communication (reason : String)
  | poolTimedOut
  | poolClosed
  | rowNotFound
  | workerCrashed
  | protocol (detail : String)
deriving DecidableEq

/-- Why the schema of the database cannot be brought up to date. -/
inductive MigrationFault where
  | versionMissing (version : Int)
  | versionMismatch (version : Int)
  | dirty (version : Int)
deriving DecidableEq

/-- Why a request to the books fails. -/
inductive LedgerError where
  | walletNotFound (user : UserId)
  | insufficientFunds (currency : Currency) (requested : Decimal)
  | amountOutOfRange (currency : Currency)
  | sameCurrency (currency : Currency)
  | usernameTaken (username : String)
  | emailTaken (email : String)
  | userNotFound (username : String)
  | database (fault : DatabaseFault)
  | migration (fault : MigrationFault)
deriving DecidableEq

def DatabaseFault.message : DatabaseFault → String
  | server e => "error returned from database: " ++ e.message
  | configuration detail => "error with configuration: " ++ detail
  | communication reason => "error communicating with database: " ++ reason
  | poolTimedOut => "pool timed out while waiting for an open connection"
  | poolClosed => "attempted to acquire a connection on a closed pool"
  | rowNotFound => "no rows returned by a query that expected to return at least one row"
  | workerCrashed => "attempted to communicate with a crashed background worker"
  | protocol detail => "encountered unexpected or invalid data: " ++ detail

def MigrationFault.message : MigrationFault → String
  | versionMissing n =>
      s!"migration {n} was previously applied but is missing in the resolved migrations"
  | versionMismatch n => s!"migration {n} was previously applied but has been modified"
  | dirty n =>
      s!"migration {n} is partially applied; fix and remove row from " ++
        "`_sqlx_migrations` table"

namespace LedgerError

def message : LedgerError → String
  | walletNotFound user => s!"Wallet not found for user {user}"
  | insufficientFunds currency requested => s!"Insufficient funds: requested {requested} {currency}"
  | amountOutOfRange currency => s!"Amount out of range for {currency} balance"
  | sameCurrency currency => s!"Cannot exchange {currency} into itself"
  | usernameTaken username => s!"Username already exists: {username}"
  | emailTaken email => s!"Email already used: {email}"
  | userNotFound username => s!"User not found: {username}"
  | database fault => s!"Database error: {fault.message}"
  | migration fault => s!"Migration error: {fault.message}"

def code : LedgerError → String
  | walletNotFound _ => "WALLET_NOT_FOUND"
  | insufficientFunds _ _ => "INSUFFICIENT_FUNDS"
  | amountOutOfRange _ => "AMOUNT_OUT_OF_RANGE"
  | sameCurrency _ => "SAME_CURRENCY"
  | usernameTaken _ => "USER_ALREADY_EXISTS"
  | emailTaken _ => "EMAIL_ALREADY_USED"
  | userNotFound _ => "USER_NOT_FOUND"
  | database _ => "DATABASE_ERROR"
  | migration _ => "DATABASE_ERROR"

/-- Whether the books refuse the request, as opposed to being out of order. -/
def isBusiness : LedgerError → Bool
  | database _ => false
  | migration _ => false
  | _ => true

end LedgerError

end CurrencyWallet
