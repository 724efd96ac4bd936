import CurrencyWallet.Binary64.Basic
import CurrencyWallet.Decimal.Parser
import CurrencyWallet.Power

/-!
# Decimals of binary numbers

A binary number `m * 2 ^ e` becomes a decimal by trading its powers of two for powers of
ten, digit by digit. While that is going on the digits are kept within 96 bits, and
afterwards they are cut to at most 52 bits with a rounding at every digit dropped, so
that about fifteen digits remain.
-/

namespace CurrencyWallet

namespace Decimal

/-- Turns `m * 2 ^ -n` into `m' * 10 ^ e`, starting from `e = -n`: each step takes out a
factor two where there is one, and else multiplies by five, or, when there is no room
for that, drops a bit. -/
def tradeHalves (m : Nat) (e : Int) : Nat → Nat × Int
  | 0 => (m, e)
  | n + 1 =>
      if m % 2 = 0 then tradeHalves (m / 2) (e + 1) n
      else if 5 * m < 2 ^ (96 : Nat) then tradeHalves (5 * m) e n
      else tradeHalves (m / 2) (e + 1) n

/-- Turns `m * 2 ^ n` into `m' * 10 ^ e`, starting from `e = n`: each step doubles the
digits while there is room, and else divides by five. -/
def tradeDoubles? (m : Nat) (e : Int) : Nat → Option (Nat × Int)
  | 0 => some (m, e)
  | n + 1 =>
      if m < 2 ^ (95 : Nat) then tradeDoubles? (2 * m) (e - 1) n
      else if (n + 1 : Int) < 2 * e then none
      else tradeDoubles? (m / 5) e n

/-- Writes out a positive power of ten, if there is room for the digits. -/
def appendZeros? (m : Nat) : Nat → Option Nat
  | 0 => some m
  | n + 1 => if 10 * m < 2 ^ (96 : Nat) then appendZeros? (10 * m) n else none

def dropDigit (m : Nat) : Nat :=
  if 5 ≤ m % 10 then m / 10 + 1 else m / 10

/-- Drops digits that are beyond the 28th fractional one. When none remain the answer is
zero without fractional digits. -/
def dropBeyond (m : Nat) : Nat → Nat × Nat
  | 0 => (m, 28)
  | n + 1 => if m / 10 = 0 then (0, 0) else dropBeyond (dropDigit m) n

/-- Drops fractional digits until the rest fits into 52 bits. -/
def dropExcess (m : Nat) : Nat → Nat × Nat
  | 0 => (m, 0)
  | s + 1 => if 2 ^ (52 : Nat) ≤ m then dropExcess (dropDigit m) s else (m, s + 1)

/-- The decimal of a finite binary number, if the number is not too large. The sign is
kept, even on a zero. -/
def ofBinary64? (x : Binary64) : Option Decimal :=
  if ¬ x.IsFinite then none
  else if x.significand = 0 then make? x.negative 0 0
  else
    let traded :=
      if x.exponent < 0 then some (tradeHalves x.significand x.exponent (-x.exponent).toNat)
      else tradeDoubles? x.significand x.exponent x.exponent.toNat
    traded.bind fun (m, e) =>
      (appendZeros? m e.toNat).bind fun m =>
        let (m, s) := if e < -28 then dropBeyond m (-e - 28).toNat else (m, (-e).toNat)
        let (m, s) := dropExcess m s
        let (m, s) := stripZeros m s
        make? x.negative m s

end Decimal

end CurrencyWallet
