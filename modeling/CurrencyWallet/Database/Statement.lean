import CurrencyWallet.Ledger.Mutation
import CurrencyWallet.Ledger.User

/-!
# Statements

What is sent to the database that keeps the books. A mutation of a wallet is one guarded
update: the row changes only if it covers the debit, and no other statement can come
between the test and the change.
-/

namespace CurrencyWallet

def Currency.column : Currency → String
  | .rub => "balance_rub"
  | .usd => "balance_usd"
  | .eur => "balance_eur"

/-- Whether a change adds or takes. -/
inductive Sign where
  | plus
  | minus
deriving DecidableEq

/-- The change of one balance by the value of a parameter. -/
structure BalanceChange where
  currency : Currency
  sign : Sign
  /-- The number of the parameter, counted from one. -/
  parameter : Nat
deriving DecidableEq

/-- An update of the wallet of one user. -/
structure WalletUpdate where
  /-- The changes, all computed from the old row. -/
  changes : List BalanceChange
  /-- The number of the parameter that holds the user id. -/
  owner : Nat
  /-- The balance that must be at least the value of a parameter. -/
  floor : Option (Currency × Nat)
deriving DecidableEq

/-- The update that a mutation amounts to. Its parameters are the amounts of the
mutation and, after them, the user id. -/
def Mutation.update : Mutation → WalletUpdate
  | deposit currency _ => ⟨[⟨currency, .plus, 1⟩], 2, none⟩
  | withdraw currency _ => ⟨[⟨currency, .minus, 1⟩], 2, some (currency, 1)⟩
  | exchange source target _ _ =>
      ⟨[⟨source, .minus, 1⟩, ⟨target, .plus, 2⟩], 3, some (source, 1)⟩

def BalanceChange.text (c : BalanceChange) : String :=
  let operator := match c.sign with
    | .plus => "+"
    | .minus => "-"
  s!"{c.currency.column} = {c.currency.column} {operator} ${c.parameter}"

/-- The text of an update. It returns the new row. -/
def WalletUpdate.text (u : WalletUpdate) : String :=
  let guard := match u.floor with
    | some (currency, parameter) => s!" AND {currency.column} >= ${parameter}"
    | none => ""
  "UPDATE wallets SET " ++ ", ".intercalate (u.changes.map BalanceChange.text) ++
    s!", updated_at = now() WHERE user_id = ${u.owner}" ++ guard ++
    " RETURNING balance_rub, balance_usd, balance_eur"

/-- A statement without the values of its parameters. -/
inductive Statement where
  | updateWallet (u : WalletUpdate)
  | selectWallet
  | walletExists
  | insertUser
  | insertWallet
  | selectUser
deriving DecidableEq

def Statement.text : Statement → String
  | updateWallet u => u.text
  | selectWallet => "SELECT balance_rub, balance_usd, balance_eur FROM wallets WHERE user_id = $1"
  | walletExists => "SELECT EXISTS (SELECT 1 FROM wallets WHERE user_id = $1)"
  | insertUser =>
      "INSERT INTO users (username, email, password_hash) VALUES ($1, $2, $3) RETURNING id"
  | insertWallet => "INSERT INTO wallets (user_id) VALUES ($1)"
  | selectUser =>
      "SELECT id, username, email, password_hash, created_at FROM users WHERE username = $1"

/-- The value of a parameter. -/
inductive Parameter where
  | decimal (d : Decimal)
  | id (u : UserId)
  | text (s : String)
deriving DecidableEq

def Parameter.render : Parameter → String
  | decimal d => toString d
  | id u => toString u
  | text s => s

/-- What is sent to the database at a time. -/
inductive Command where
  | begin
  | commit
  | execute (s : Statement) (parameters : List Parameter)
deriving DecidableEq

/-- One row of a result. -/
inductive Row where
  | wallet (b : Balances)
  | flag (b : Bool)
  | id (u : UserId)
  | user (u : User)
deriving DecidableEq

inductive Answer where
  | row (r : Row)
  | done
  | fault (f : DatabaseFault)
deriving DecidableEq

/-- A decimal as it arrives on the other side: the digits of a zero are not sent. -/
def Decimal.onWire (d : Decimal) : Decimal :=
  if d.IsZero then .zero else d

def Balances.onWire (b : Balances) : Balances :=
  ⟨b.rub.onWire, b.usd.onWire, b.eur.onWire⟩

end CurrencyWallet
