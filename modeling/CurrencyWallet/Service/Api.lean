import CurrencyWallet.Service.Desk
import CurrencyWallet.Service.Reply
import CurrencyWallet.Service.Request

/-!
# Requests at the desk

How the desk answers requests. The user id is read before the fields of the request are
checked, and only a request without faults reaches the desk itself. A request is given
up when the provider of rates would keep it longer than the service is willing to wait;
all else takes no time.

A history is what happens to a desk: requests, and between them the passing of time and
changes of the provider.
-/

namespace CurrencyWallet

namespace Desk

def parseUser (text : String) : Except ServiceError UserId :=
  match UserId.parse? text with
  | some user => .ok user
  | none => .error .invalidUserId

/-- The user and the fields of a deposit or withdrawal. -/
def readTransaction (user : String) (body : WalletTransaction) :
    Except ServiceError (UserId × ValidTransaction) := do
  let user ← parseUser user
  return (user, ← body.validate)

def readExchange (user : String) (body : ExchangeRequest) :
    Except ServiceError (UserId × ValidExchange) := do
  let user ← parseUser user
  return (user, ← body.validate)

/-- Answers a request. The id is for the user if one is registered, and the deadline
is for the whole request. -/
def answer (d : Desk) (deadline : Option Nat) (id : UserId) (r : Request) :
    Except ServiceError Success × Desk :=
  match r with
  | .register user =>
      let (result, d) := d.register id user
      (result.map (fun _ => .registered), d)
  | .balance user =>
      match parseUser user with
      | .ok user => ((d.balances user).map .balance, d)
      | .error e => (.error e, d)
  | .deposit user body =>
      match readTransaction user body with
      | .ok (user, t) =>
          let (result, d) := d.deposit user t.currency t.amount
          (result.map .deposited, d)
      | .error e => (.error e, d)
  | .withdraw user body =>
      match readTransaction user body with
      | .ok (user, t) =>
          let (result, d) := d.withdraw user t.currency t.amount
          (result.map .withdrawn, d)
      | .error e => (.error e, d)
  | .rates =>
      let (result, d) := d.getTable deadline
      (result.map .rates, d)
  | .exchange user body =>
      match readExchange user body with
      | .ok (user, r) =>
          let (result, d) := d.exchange deadline user r.source r.target r.amount
          (result.map (fun o => .exchanged o.exchangedAmount o.newBalance), d)
      | .error e => (.error e, d)

/-- Answers a request within a time in milliseconds. -/
def handle (d : Desk) (timeout : Nat) (id : UserId) (r : Request) :
    Except ServiceError Success × Desk :=
  d.answer (some (d.quotes.clock + timeout)) id r

end Desk

/-- What happens to a desk. -/
inductive DeskEvent where
  | pause (milliseconds : Nat)
  | provider (p : Provider)
  /-- A request comes in. The id is for the user if one is registered. -/
  | request (id : UserId) (r : Request)

namespace Desk

/-- What an event does to a desk. The reply is there for requests only. -/
def step (timeout : Nat) (d : Desk) : DeskEvent → Option (Except ServiceError Success) × Desk
  | .pause milliseconds => (none, d.advance milliseconds)
  | .provider p => (none, d.setProvider p)
  | .request id r =>
      let (result, d) := d.handle timeout id r
      (some result, d)

/-- The replies to the requests of a history, and the desk after it. -/
def run (timeout : Nat) (d : Desk) : List DeskEvent → List (Except ServiceError Success) × Desk
  | [] => ([], d)
  | e :: es =>
      let (result?, d) := d.step timeout e
      let (results, d) := d.run timeout es
      (result?.toList ++ results, d)

end Desk

end CurrencyWallet
