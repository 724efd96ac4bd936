import CurrencyWallet.Ledger.Error
import CurrencyWallet.Rates.Error

/-!
# Service errors

Why a request to the service fails: because of the request itself, because the
books or the rates say so, or because time has run out. The kind of an error
says whose concern it is, and its status is the number that a client gets.
-/

namespace CurrencyWallet

/-- Whose concern an error is. -/
inductive ErrorKind where
  /-- The client sent something malformed. -/
  | validation
  /-- The rules refuse the request. -/
  | business
  /-- The books or the rates are out of order. -/
  | dependency
  /-- The service itself is out of order. -/
  | internal
deriving DecidableEq

def ErrorKind.name : ErrorKind → String
  | validation => "Validation"
  | business => "Business"
  | dependency => "Dependency"
  | internal => "Internal"

/-- Why a request fails. -/
inductive ServiceError where
  | invalidRequest (fields : List (String × String))
  | invalidUserId
  /-- The amount is not positive, or nothing can be got for it. -/
  | invalidAmount
  /-- The currency is not supported, or the amount is no number. -/
  | currency (error : CurrencyError)
  | sameCurrency (currency : Currency)
  | ledger (error : LedgerError)
  | rate (error : RateError)
  | deadlineExceeded
deriving DecidableEq

namespace ServiceError

def message : ServiceError → String
  | invalidRequest _ => "Validation failed"
  | invalidUserId => "Invalid user id"
  | invalidAmount => "Invalid amount, must be greater than zero"
  | currency e => e.message
  | sameCurrency c => s!"Cannot exchange {c} into itself"
  | ledger e => e.message
  | rate e => e.message
  | deadlineExceeded => "Request timed out"

def code : ServiceError → String
  | invalidRequest _ => "VALIDATION_ERROR"
  | invalidUserId => "INVALID_USER_ID"
  | invalidAmount => "INVALID_AMOUNT"
  | currency e => e.code
  | sameCurrency _ => "SAME_CURRENCY"
  | ledger e => e.code
  | rate e => e.code
  | deadlineExceeded => "DEADLINE_EXCEEDED"

def kind : ServiceError → ErrorKind
  | invalidRequest _ => .validation
  | invalidUserId => .validation
  | invalidAmount => .business
  | currency .notFinite => .validation
  | currency (.unsupported _) => .business
  | sameCurrency _ => .validation
  | ledger e => if e.isBusiness then .business else .dependency
  | rate (.invalidEndpoint _) => .internal
  | rate _ => .dependency
  | deadlineExceeded => .dependency

/-- The status of all errors of a kind that have no status of their own. -/
def statusOfKind : ErrorKind → Nat
  | .validation => 400
  | .business => 400
  | .dependency => 502
  | .internal => 500

def status (e : ServiceError) : Nat :=
  match e with
  | ledger (.walletNotFound _) => 404
  | ledger (.userNotFound _) => 401
  | ledger (.database _) => 500
  | ledger (.migration _) => 500
  | rate (.unavailable _) => 503
  | rate (.notAvailable _) => 400
  | deadlineExceeded => 504
  | e => statusOfKind e.kind

def isInsufficientFunds : ServiceError → Bool
  | ledger (.insufficientFunds _ _) => true
  | _ => false

end ServiceError

end CurrencyWallet
