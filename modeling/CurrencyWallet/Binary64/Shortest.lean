import CurrencyWallet.Binary64.Basic
import CurrencyWallet.Decimal.Printer
import CurrencyWallet.Power

/-!
# The shortest decimal text of a binary number

Of all decimals that round to a given binary number the text shows one with the fewest
digits, and of those the one nearest to the number. The text is positional: it never has
an exponent.
-/

namespace CurrencyWallet

namespace Binary64

/-- A positive rational number and the interval around it, all with the same denominator. -/
structure Neighbourhood where
  lower : Nat
  value : Nat
  upper : Nat
  /-- The common denominator. -/
  denominator : Nat
  /-- Whether the ends belong to the interval. -/
  closed : Bool

/-- The reals that round to a finite number: half a step in each direction, but below a
power of two the steps are half as long. The ends round to an even significand. -/
def neighbourhood (x : Binary64) : Neighbourhood :=
  let m := x.significand
  let e := x.exponent - 2
  let up := 2 ^ e.toNat
  let below := if m = 2 ^ (52 : Nat) ∧ 1 < x.exponentBits then 1 else 2
  { lower := (4 * m - below) * up
    value := 4 * m * up
    upper := (4 * m + 2) * up
    denominator := 2 ^ (-e).toNat
    closed := m % 2 = 0 }

/-- Whether `q * 10 ^ k` lies in the interval. -/
def Neighbourhood.contains (r : Neighbourhood) (q : Nat) (k : Int) : Bool :=
  let point := q * 10 ^ k.toNat * r.denominator
  let unit := 10 ^ (-k).toNat
  if r.closed then r.lower * unit ≤ point && point ≤ r.upper * unit
  else r.lower * unit < point && point < r.upper * unit

/-- The multiple of `10 ^ k` in the interval that is nearest to the value, if there is
one in it. Only the two multiples on either side of the value come into question. If they
are equally near it is the greater one. -/
def Neighbourhood.onGrid? (r : Neighbourhood) (k : Int) : Option Nat :=
  let n := r.value * 10 ^ (-k).toNat
  let d := r.denominator * 10 ^ k.toNat
  let q := n / d
  let below := r.contains q k && q != 0
  let above := r.contains (q + 1) k
  if below && (!above || 2 * (n % d) < d) then some q
  else if above then some (q + 1)
  else none

/-- Tries ever finer grids. -/
def Neighbourhood.firstOnGrid (r : Neighbourhood) (k : Int) : Nat → Nat × Int
  | 0 => (0, 0)
  | n + 1 =>
      match r.onGrid? k with
      | some q => (q, k)
      | none => firstOnGrid r (k - 1) n

/-- The digits and the power of ten of the shortest decimal that rounds to a finite
number. -/
def shortest (x : Binary64) : Nat × Int :=
  if x.significand = 0 then (0, 0)
  else
    let log2 : Int := Nat.log2 x.significand + x.exponent
    -- The first grid is coarser than the number, and 17 digits always suffice.
    x.neighbourhood.firstOnGrid (log2 * 30103 / 100000 + 2) 24

/-- The positional text of a finite number with its sign. -/
def toChars (x : Binary64) : List Char :=
  let (digits, exponent) := x.shortest
  let text := Decimal.digits (digits * 10 ^ exponent.toNat) (-exponent).toNat
  if x.negative then '-' :: text else text

end Binary64

end CurrencyWallet
