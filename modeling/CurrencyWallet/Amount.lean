import CurrencyWallet.Currency
import CurrencyWallet.Decimal.OfBinary64
import CurrencyWallet.Power

/-!
# Amounts

What a client names is an amount and has two fractional digits. What a wallet holds is a
balance and has ten. Both stay below `10 ^ 18` in magnitude.
-/

namespace CurrencyWallet

namespace Decimal

def amountPlaces : Nat := 2

def balancePlaces : Nat := 10

/-- A decimal is in the range of balances when its magnitude is below `10 ^ 18`. -/
def InBalanceRange (d : Decimal) : Prop :=
  d.units.natAbs < 10 ^ (18 : Nat) * 10 ^ (28 : Nat)

instance (d : Decimal) : Decidable d.InBalanceRange :=
  inferInstanceAs (Decidable (d.units.natAbs < 10 ^ (18 : Nat) * 10 ^ (28 : Nat)))

def roundAmount (d : Decimal) : Decimal :=
  d.round amountPlaces

def roundBalance (d : Decimal) : Decimal :=
  d.round balancePlaces

/-- The amount that a client meant by a binary number. -/
def ofClient (x : Binary64) : Except CurrencyError Decimal :=
  match ofBinary64? x with
  | some d => .ok d.roundAmount
  | none => .error .notFinite

end Decimal

end CurrencyWallet
