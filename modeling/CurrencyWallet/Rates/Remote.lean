import CurrencyWallet.Network
import CurrencyWallet.Rates.Quote

/-!
# The remote rate service

Calls to a rate service that speaks gRPC: what is sent, what may come back, and what the
statuses of that protocol mean for the rates. A service that does not answer or cannot
be reached counts as unavailable.
-/

namespace CurrencyWallet

namespace Remote

/-- The statuses of a failed call. -/
inductive StatusCode where
  | cancelled
  | unknown
  | invalidArgument
  | deadlineExceeded
  | notFound
  | alreadyExists
  | permissionDenied
  | resourceExhausted
  | failedPrecondition
  | aborted
  | outOfRange
  | unimplemented
  | internal
  | unavailable
  | dataLoss
  | unauthenticated
deriving DecidableEq

/-- The status of a number; numbers that are not assigned stand for an unknown one. -/
def StatusCode.ofNumber : Int → StatusCode
  | 1 => cancelled
  | 3 => invalidArgument
  | 4 => deadlineExceeded
  | 5 => notFound
  | 6 => alreadyExists
  | 7 => permissionDenied
  | 8 => resourceExhausted
  | 9 => failedPrecondition
  | 10 => aborted
  | 11 => outOfRange
  | 12 => unimplemented
  | 13 => internal
  | 14 => unavailable
  | 15 => dataLoss
  | 16 => unauthenticated
  | _ => unknown

def StatusCode.name : StatusCode → String
  | cancelled => "Cancelled"
  | unknown => "Unknown"
  | invalidArgument => "InvalidArgument"
  | deadlineExceeded => "DeadlineExceeded"
  | notFound => "NotFound"
  | alreadyExists => "AlreadyExists"
  | permissionDenied => "PermissionDenied"
  | resourceExhausted => "ResourceExhausted"
  | failedPrecondition => "FailedPrecondition"
  | aborted => "Aborted"
  | outOfRange => "OutOfRange"
  | unimplemented => "Unimplemented"
  | internal => "Internal"
  | unavailable => "Unavailable"
  | dataLoss => "DataLoss"
  | unauthenticated => "Unauthenticated"

/-- The outcome of a failed call. -/
structure Status where
  code : StatusCode
  message : String
deriving DecidableEq

inductive Call where
  | rate (pair : CurrencyPair)
  | table
deriving DecidableEq

def Call.method : Call → String
  | rate _ => "/exchange.ExchangeService/GetExchangeRateForCurrency"
  | table => "/exchange.ExchangeService/GetExchangeRates"

def Call.fields : Call → List String
  | rate pair => [pair.source.code, pair.target.code]
  | table => []

/-- What the service does with a call. -/
inductive Reply (α : Type) where
  | answer (a : α)
  | failure (s : Status)
  /-- It does not answer before the time is up. -/
  | never

def providerName : String := "GRPC"

/-- The status of a call that is given up. -/
def timeoutExpired : Status :=
  ⟨.cancelled, "Timeout expired"⟩

/-- The status of a call when no connection can be made. -/
def notConnected (reason : String) : Status :=
  ⟨.unavailable, s!"error trying to connect: tcp connect error: {reason}"⟩

/-- What a status means for the rates. Only a question for a pair can be answered by its
absence. -/
def rateError (call : Call) (s : Status) : RateError :=
  match s.code, call with
  | .notFound, .rate pair => .notAvailable pair
  | .unavailable, _ => .unavailable s.message
  | .deadlineExceeded, _ => .unavailable s.message
  | .cancelled, _ => .unavailable s.message
  | code, _ => .provider s!"{code.name}: {s.message}"

/-- Makes a call. The second part lists the calls that have reached the service. -/
def call {α : Type} (link : Link) (c : Call) (reply : Reply α) :
    Except RateError α × List Call :=
  match link.obstacle? .machine, reply with
  | some reason, _ => (.error (rateError c (notConnected reason)), [])
  | none, .answer a => (.ok a, [c])
  | none, .failure s => (.error (rateError c s), [c])
  | none, .never => (.error (rateError c timeoutExpired), [c])

/-- Whether an address can be used: it is not empty and has no blanks, control
characters or characters beyond ASCII. -/
def isEndpoint (address : String) : Bool :=
  !address.isEmpty && address.toList.all (fun c => 0x20 < c.toNat && c.toNat < 0x7f)

def checkEndpoint (address : String) : Except RateError Unit :=
  if isEndpoint address then .ok () else .error (.invalidEndpoint s!"{address}: invalid uri")

end Remote

end CurrencyWallet
