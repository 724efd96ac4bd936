import CurrencyWallet.Decimal.Basic
import CurrencyWallet.Power

/-!
# Rounding

Two ways to round a quotient of natural numbers to the nearest whole number, which
differ in what becomes of a half, and the rounding of a decimal to a number of
fractional digits.
-/

namespace CurrencyWallet

/-- The whole number nearest to `n / d`; a half goes up. -/
def divHalfUp (n d : Nat) : Nat :=
  (2 * n + d) / (2 * d)

/-- The whole number nearest to `n / d`; a half goes to the even neighbour. -/
def divHalfEven (n d : Nat) : Nat :=
  let q := n / d
  let r := n % d
  if 2 * r < d then q
  else if d < 2 * r then q + 1
  else if q % 2 = 0 then q
  else q + 1

namespace Decimal

/-- Rounds to `places` fractional digits, a half away from zero. A decimal that has no
more digits than that is left as it is, so no zeros are appended. A zero keeps its sign; a
number that becomes zero loses it. -/
def round (d : Decimal) (places : Nat) : Decimal :=
  if d.scale ≤ places then d
  else
    let m := divHalfUp d.mantissa (10 ^ (d.scale - places))
    (make? (d.negative && (d.mantissa = 0 || m ≠ 0)) m places).getD d

end Decimal

end CurrencyWallet
