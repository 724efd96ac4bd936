import CurrencyWallet.Decimal.Rounding
import CurrencyWallet.Power

/-!
# Binary floating point numbers

The numbers of the 64 bit binary format, kept as their bits: one bit of sign, eleven of
exponent and 52 of fraction. A finite number is `± significand * 2 ^ exponent`, exactly.
`Binary64.ofRatio?` goes the other way and picks the nearest number of the format.
-/

namespace CurrencyWallet

/-- A number of the 64 bit binary format. -/
structure Binary64 where
  /-- The bits, with the sign on top. -/
  bits : UInt64
deriving DecidableEq

namespace Binary64

def negative (x : Binary64) : Bool :=
  2 ^ (63 : Nat) ≤ x.bits.toNat

def exponentBits (x : Binary64) : Nat :=
  x.bits.toNat / 2 ^ (52 : Nat) % 2 ^ (11 : Nat)

/-- The 52 bits behind the hidden one. -/
def fractionBits (x : Binary64) : Nat :=
  x.bits.toNat % 2 ^ (52 : Nat)

/-- A number is finite unless all exponent bits are set, which marks the infinities and
the values that are no number. -/
def IsFinite (x : Binary64) : Prop :=
  x.exponentBits ≠ 2047

instance (x : Binary64) : Decidable x.IsFinite :=
  inferInstanceAs (Decidable (x.exponentBits ≠ 2047))

/-- The whole number that a finite number has in front of its power of two. The smallest
exponent has no hidden bit. -/
def significand (x : Binary64) : Nat :=
  if x.exponentBits = 0 then x.fractionBits else 2 ^ (52 : Nat) + x.fractionBits

def exponent (x : Binary64) : Int :=
  (max x.exponentBits 1 : Nat) - 1075

/-- The number with this sign and these bits below it. -/
def ofMagnitude (negative : Bool) (magnitude : Nat) : Binary64 :=
  ⟨UInt64.ofNat ((if negative then 2 ^ (63 : Nat) else 0) + magnitude)⟩

/-- The power of two for which `n / d` has a whole part of 53 bits, or the smallest
power of two if that is greater. -/
def exponentOfRatio (n d : Nat) : Int :=
  let l : Int := (Nat.log2 n : Int) - Nat.log2 d
  let reached : Bool := if 0 ≤ l then d * 2 ^ l.toNat ≤ n else d ≤ n * 2 ^ (-l).toNat
  max (if reached then l - 52 else l - 53) (-1074)

/-- The finite number nearest to `± n / d` with a half going to the even significand, if
rounding does not lead out of the format. -/
def ofRatio? (negative : Bool) (n d : Nat) : Option Binary64 :=
  if n = 0 then some (ofMagnitude negative 0)
  else
    let e := exponentOfRatio n d
    let q := divHalfEven (n * 2 ^ (-e).toNat) (d * 2 ^ e.toNat)
    -- A significand of 54 bits carries into the exponent bits, which is what it has to do.
    let magnitude := (e + 1074).toNat * 2 ^ (52 : Nat) + q
    if magnitude < 2047 * 2 ^ (52 : Nat) then some (ofMagnitude negative magnitude) else none

/-- The finite number nearest to `± digits * 10 ^ exponent`. Exponents so far out that
the result is out of the format, or zero, whatever the digits are, are answered without
computing the power. -/
def ofDigits? (negative : Bool) (digits : Nat) (exponent : Int) : Option Binary64 :=
  if digits = 0 then some (ofMagnitude negative 0)
  else
    let length : Int := (Nat.toDigits 10 digits).length
    if 400 < length + exponent then none
    else if length + exponent < -400 then some (ofMagnitude negative 0)
    else ofRatio? negative (digits * 10 ^ exponent.toNat) (10 ^ (-exponent).toNat)

end Binary64

end CurrencyWallet
