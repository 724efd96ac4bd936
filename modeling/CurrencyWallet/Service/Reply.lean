import CurrencyWallet.Json.Codec
import CurrencyWallet.Rates.Quote
import CurrencyWallet.Service.Error

/-!
# Replies

What clients get: a status and a JSON body. Success has the status 200 and
nothing else has.
-/

namespace CurrencyWallet

/-- What a request that succeeds is answered with. -/
inductive Success where
  | registered
  | balance (b : Balances)
  | deposited (b : Balances)
  | withdrawn (b : Balances)
  | rates (table : RateTable)
  /-- What was given in an exchange, and the contents of the wallet afterwards. -/
  | exchanged (amount : Decimal) (b : Balances)
deriving DecidableEq

namespace Success

def body : Success → Json
  | registered => .object [("message", .string "User registered successfully")]
  | balance b => .object [("balance", b.toJson)]
  | deposited b =>
      .object [("message", .string "Account topped up successfully"), ("new_balance", b.toJson)]
  | withdrawn b =>
      .object [("message", .string "Withdrawal successful"), ("new_balance", b.toJson)]
  | rates table => .object [("rates", .object (table.map (fun e => (e.1, .string e.2))))]
  | exchanged amount b =>
      .object [("message", .string "Exchange successful"), ("exchanged_amount", amount.toJson),
        ("new_balance", b.toJson)]

end Success

namespace ServiceError

/-- What a client is told. What is wrong inside the service is not shown. -/
def publicMessage : ServiceError → String
  | invalidRequest _ => "Validation error"
  | invalidUserId => "invalid user id"
  | invalidAmount => "invalid amount, must be greater than zero"
  | currency .notFinite => "invalid amount, must be greater than zero"
  | currency (.unsupported _) => "unsupported currency"
  | sameCurrency _ => "cannot exchange a currency into itself"
  | ledger (.walletNotFound _) => "Wallet not found"
  | ledger (.insufficientFunds _ _) => "Insufficient funds"
  | ledger (.amountOutOfRange _) => "amount out of range"
  | ledger (.sameCurrency _) => "cannot exchange a currency into itself"
  | ledger (.usernameTaken _) => "username already exists"
  | ledger (.emailTaken _) => "email already used"
  | ledger (.userNotFound _) => "Invalid username or password"
  | ledger (.database _) => "Internal server error"
  | ledger (.migration _) => "Internal server error"
  | rate (.invalidEndpoint _) => "Internal server error"
  | rate e => e.message
  | deadlineExceeded => "Request timed out"

def publicFields : ServiceError → List (String × String)
  | invalidRequest fields => fields
  | ledger (.usernameTaken _) => [("username", "field already exists")]
  | ledger (.emailTaken _) => [("email", "field already exists")]
  | _ => []

def body (e : ServiceError) : Json :=
  let fields := e.publicFields.map (fun f => (f.1, Json.string f.2))
  .object [("error", .object
    ([("code", .nat e.status), ("message", .string e.publicMessage)] ++
      if fields.isEmpty then [] else [("fields", .object fields)]))]

end ServiceError

/-- What a client gets. -/
structure Reply where
  status : Nat
  body : Json

namespace Reply

def ofResult : Except ServiceError Success → Reply
  | .ok s => ⟨200, s.body⟩
  | .error e => ⟨e.status, e.body⟩

def isSuccess (r : Reply) : Bool :=
  r.status = 200

end Reply

end CurrencyWallet
