import CurrencyWallet.Power

/-!
# Decimals

A decimal is a sign, a whole number below `2 ^ 96` and a count of fractional digits from
0 to 28. The count is part of the value: `13.0` and `13.00` are two decimals that
compare as equal.

Every decimal is a whole number of units of `10 ^ -28`, so comparison is comparison of
integers. `Decimal.units` is the view through which the order is defined.
-/

namespace CurrencyWallet

/-- A decimal number of at most 96 bits with 0 to 28 fractional digits. -/
structure Decimal where
  negative : Bool
  mantissa : Nat
  scale : Nat
  /-- The digits fit into 96 bits. -/
  mantissa_lt : mantissa < 2 ^ (96 : Nat) := by decide
  /-- There are at most 28 fractional digits. -/
  scale_le : scale ≤ 28 := by decide
deriving DecidableEq

namespace Decimal

/-- The decimal with exactly these parts, if they are in range. -/
def make? (negative : Bool) (mantissa scale : Nat) : Option Decimal :=
  if h : mantissa < 2 ^ (96 : Nat) ∧ scale ≤ 28 then
    some ⟨negative, mantissa, scale, h.1, h.2⟩
  else
    none

/-- The decimal with these parts, if they are in range. A zero gets no sign. -/
def ofParts? (negative : Bool) (mantissa scale : Nat) : Option Decimal :=
  make? (negative && mantissa != 0) mantissa scale

def zero : Decimal where
  negative := false
  mantissa := 0
  scale := 0

instance : Inhabited Decimal := ⟨zero⟩

def coefficient (d : Decimal) : Int :=
  if d.negative then -(d.mantissa : Int) else d.mantissa

/-- The value counted in units of `10 ^ -28`. -/
def units (d : Decimal) : Int :=
  d.coefficient * 10 ^ (28 - d.scale)

instance : LE Decimal where
  le a b := a.units ≤ b.units

instance : LT Decimal where
  lt a b := a.units < b.units

instance (a b : Decimal) : Decidable (a ≤ b) :=
  inferInstanceAs (Decidable (a.units ≤ b.units))

instance (a b : Decimal) : Decidable (a < b) :=
  inferInstanceAs (Decidable (a.units < b.units))

/-- Two decimals have the same value when they differ at most in trailing zeros or in
the sign of a zero. -/
def SameValue (a b : Decimal) : Prop :=
  a.units = b.units

instance (a b : Decimal) : Decidable (SameValue a b) :=
  inferInstanceAs (Decidable (a.units = b.units))

/-- A decimal is zero when all its digits are, whatever its scale and sign. -/
def IsZero (d : Decimal) : Prop :=
  d.mantissa = 0

instance (d : Decimal) : Decidable d.IsZero :=
  inferInstanceAs (Decidable (d.mantissa = 0))

def negate (d : Decimal) : Decimal :=
  { d with negative := !d.negative }

theorem le_iff_units_le {a b : Decimal} : a ≤ b ↔ a.units ≤ b.units := Iff.rfl

theorem lt_iff_units_lt {a b : Decimal} : a < b ↔ a.units < b.units := Iff.rfl

@[simp] theorem units_zero : zero.units = 0 := rfl

end Decimal

end CurrencyWallet
