import CurrencyWallet.Directory
import CurrencyWallet.Rates.Quote

/-!
# Rate providers

A provider is what it would answer now, and how long that would take. Rates change and
providers fail, so whoever asks twice may meet two different providers.
-/

namespace CurrencyWallet

/-- What a provider of rates would answer if it were asked now. -/
structure Provider where
  rate : CurrencyPair → Except RateError String
  table : Except RateError RateTable
  /-- How long an answer takes, in milliseconds. -/
  delay : Nat := 0

/-- A provider whose rates are listed, and which can be switched off. -/
structure ListedRates where
  rates : Directory CurrencyPair String
  table : RateTable
  unavailable : Bool
  /-- How long an answer takes, in milliseconds. -/
  delay : Nat

namespace ListedRates

def empty : ListedRates :=
  ⟨∅, [], false, 0⟩

/-- Why nothing is answered while the provider is switched off. -/
def offline : RateError :=
  .unavailable "mock provider offline"

def provider (l : ListedRates) : Provider where
  rate pair :=
    if l.unavailable then .error offline
    else
      match l.rates.get? pair with
      | some rate => .ok rate
      | none => .error (.notAvailable pair)
  table := if l.unavailable then .error offline else .ok l.table
  delay := l.delay

end ListedRates

end CurrencyWallet
