import CurrencyWallet.Directory
import CurrencyWallet.Ledger.Mutation
import CurrencyWallet.Ledger.User

/-!
# The ledger

The books in memory: wallets by user id and users by name. Registration opens an empty
wallet, and a mutation replaces the contents of one wallet or changes nothing.
-/

namespace CurrencyWallet

structure Ledger where
  wallets : Directory UserId Balances
  users : Directory String User

namespace Ledger

def empty : Ledger :=
  ⟨∅, ∅⟩

/-- Puts these contents into the wallet of a user, whether it is there already or not. -/
def openWallet (l : Ledger) (id : UserId) (b : Balances) : Ledger :=
  { l with wallets := l.wallets.insert id b }

def walletCount (l : Ledger) : Nat :=
  l.wallets.size

def balances (l : Ledger) (id : UserId) : Except LedgerError Balances :=
  match l.wallets.get? id with
  | some b => .ok b
  | none => .error (.walletNotFound id)

def outcome (l : Ledger) (id : UserId) (m : Mutation) : Except LedgerError Balances := do
  m.apply (← l.balances id)

/-- Applies a mutation to a wallet. The result is the new contents of the wallet, or the
reason why nothing has changed. -/
def apply (l : Ledger) (id : UserId) (m : Mutation) : Except LedgerError Balances × Ledger :=
  match l.outcome id m with
  | .ok b => (.ok b, l.openWallet id b)
  | .error e => (.error e, l)

def registrationError? (l : Ledger) (u : NewUser) : Option LedgerError :=
  if l.users.contains u.username then some (.usernameTaken u.username)
  else if l.users.values.any (·.email = u.email) then some (.emailTaken u.email)
  else none

/-- Registers a user under a new id and opens an empty wallet. -/
def register (l : Ledger) (id : UserId) (createdAt : Timestamp) (u : NewUser) :
    Except LedgerError UserId × Ledger :=
  match l.registrationError? u with
  | some e => (.error e, l)
  | none =>
      (.ok id,
        { wallets := l.wallets.insert id .zero
          users := l.users.insert u.username
            ⟨id, u.username, u.email, u.passwordHash, createdAt⟩ })

def findUser (l : Ledger) (username : String) : Except LedgerError User :=
  match l.users.get? username with
  | some u => .ok u
  | none => .error (.userNotFound username)

end Ledger

end CurrencyWallet
