/-!
# Currencies

The three currencies a wallet holds, ordered pairs of them, and what can be wrong with a
code or an amount that a client sends.
-/

namespace CurrencyWallet

/-- A currency that wallets are kept in. -/
inductive Currency where
  | rub
  | usd
  | eur
deriving DecidableEq

/-- Why a currency code or an amount cannot be used. -/
inductive CurrencyError where
  | unsupported (code : String)
  /-- The amount is infinite, no number, or too large to be a decimal. -/
  | notFinite
deriving DecidableEq

namespace CurrencyError

def message : CurrencyError → String
  | unsupported code => s!"Unsupported currency: {code}"
  | notFinite => "Amount is not a finite number"

def code : CurrencyError → String
  | unsupported _ => "UNSUPPORTED_CURRENCY"
  | notFinite => "INVALID_AMOUNT"

end CurrencyError

namespace Currency

/-- All currencies, in their order. -/
def all : List Currency :=
  [rub, usd, eur]

/-- The place of a currency in the order. -/
def index : Currency → Nat
  | rub => 0
  | usd => 1
  | eur => 2

def code : Currency → String
  | rub => "RUB"
  | usd => "USD"
  | eur => "EUR"

instance : ToString Currency := ⟨code⟩

/-- The currency with exactly this code. -/
def ofCode? : String → Option Currency
  | "RUB" => some rub
  | "USD" => some usd
  | "EUR" => some eur
  | _ => none

/-- Reads a code in which ASCII letters may be small or capital. -/
def parse (text : String) : Except CurrencyError Currency :=
  match ofCode? (text.map Char.toUpper) with
  | some c => .ok c
  | none => .error (.unsupported text)

@[simp] theorem ofCode?_code (c : Currency) : ofCode? c.code = some c := by
  cases c <;> rfl

end Currency

/-- An ordered pair of currencies: what is given away and what is received. -/
structure CurrencyPair where
  source : Currency
  target : Currency
deriving DecidableEq

namespace CurrencyPair

/-- A pair of a currency with itself has no rate. -/
def IsIdentity (p : CurrencyPair) : Prop :=
  p.source = p.target

instance (p : CurrencyPair) : Decidable p.IsIdentity :=
  inferInstanceAs (Decidable (p.source = p.target))

instance : ToString CurrencyPair where
  toString p := s!"{p.source}/{p.target}"

end CurrencyPair

end CurrencyWallet
