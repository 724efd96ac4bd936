import CurrencyWallet.Decimal.Rounding
import CurrencyWallet.Power

/-!
# Arithmetic

Sums, differences and products are computed exactly and then fitted into 96 bits and 28
fractional digits by dropping as few digits as possible, with one rounding to the
nearest and a half to the even neighbour. When whole digits would have to be dropped
there is no result.

A zero operand takes no part: `0.0000 + 5` is `5`, and a product with zero is `0`
without fractional digits.
-/

namespace CurrencyWallet

namespace Decimal

/-- How many digits must be dropped from the right of `m` before the rest is below `2 ^
96`. -/
def digitsTooMany (m : Nat) : Nat :=
  if m < 2 ^ (96 : Nat) then 0 else digitsTooMany (m / 10) + 1
termination_by m
decreasing_by omega

/-- The decimal nearest to `± m / 10 ^ s` with as many fractional digits as fit, but no
more than `s`. -/
def fit? (negative : Bool) (m s : Nat) : Option Decimal :=
  let k := (s - 28) + digitsTooMany (m / 10 ^ (s - 28))
  if s < k then none
  else
    let rounded := divHalfEven m (10 ^ k)
    if rounded < 2 ^ (96 : Nat) then ofParts? negative rounded (s - k)
    else if s - k = 0 then none
    else ofParts? negative (divHalfEven rounded 10) (s - k - 1)

/-- The digits of `d`, with their sign, at a scale that is no smaller than its own. -/
def coefficientAt (d : Decimal) (scale : Nat) : Int :=
  d.coefficient * 10 ^ (scale - d.scale)

def add? (a b : Decimal) : Option Decimal :=
  if a.IsZero then some b
  else if b.IsZero then some a
  else
    let scale := max a.scale b.scale
    let sum := a.coefficientAt scale + b.coefficientAt scale
    fit? (sum < 0) sum.natAbs scale

def sub? (a b : Decimal) : Option Decimal :=
  if a.IsZero then some (if b.IsZero then b else b.negate)
  else if b.IsZero then some a
  else
    let scale := max a.scale b.scale
    let difference := a.coefficientAt scale - b.coefficientAt scale
    fit? (difference < 0) difference.natAbs scale

/-- The product, if it is in range. Two factors of at most 32 bits each with more than
47 fractional digits together give zero. -/
def mul? (a b : Decimal) : Option Decimal :=
  if a.IsZero ∨ b.IsZero then some zero
  else if a.mantissa < 2 ^ (32 : Nat) ∧ b.mantissa < 2 ^ (32 : Nat) ∧ 47 < a.scale + b.scale then
    some zero
  else fit? (a.negative != b.negative) (a.mantissa * b.mantissa) (a.scale + b.scale)

end Decimal

end CurrencyWallet
