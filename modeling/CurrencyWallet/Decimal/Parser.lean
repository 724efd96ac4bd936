import CurrencyWallet.Decimal.Arithmetic
import CurrencyWallet.Power

/-!
# Reading a decimal

A plain decimal is an optional sign, digits and at most one point, with underscores
anywhere after the first digit. Digits that no longer fit behind the point only round
the digit before them. A text that is not plain may still be a plain decimal with a
power of ten behind an `e` or `E`.

The readers go through the characters once, from left to right, and carry the digits
read so far with the number of fractional ones among them.
-/

namespace CurrencyWallet

def digit? (c : Char) : Option Nat :=
  if '0' ≤ c ∧ c ≤ '9' then some (c.toNat - '0'.toNat) else none

/-- The number written by these digits, if they are digits and at least one. -/
def natOfDigits? (cs : List Char) : Option Nat :=
  if cs.isEmpty then none
  else cs.foldlM (fun n c => (digit? c).map (10 * n + ·)) 0

namespace Decimal

/-- Takes a digit that no longer fits into account: from 5 on, the digits before it go
up by one. What follows must be digits and underscores and changes nothing. -/
def roundLast (m s digit : Nat) (rest : List Char) : Option (Nat × Nat) :=
  if rest.any (fun c => (digit? c).isNone && c != '_') then none
  else if digit < 5 then some (m, s)
  else if m + 1 < 2 ^ (96 : Nat) then some (m + 1, s)
  else if s = 0 then none
  else some ((m + 1 + 4) / 10, s - 1)

/-- From here on an underscore behind 28 fractional digits is skipped; below, it stands
for a digit 0. -/
def longMantissa : Nat :=
  (2 ^ (64 : Nat) - 1) / 10 - 255

/-- Reads the digits behind the point. `started` says whether there has been a digit. -/
def readFraction (started : Bool) (m s : Nat) : List Char → Option (Nat × Nat)
  | [] => if started then some (m, s) else none
  | c :: cs =>
      match digit? c with
      | some d =>
          if 10 * m + d < 2 ^ (96 : Nat) ∧ s < 28 then readFraction true (10 * m + d) (s + 1) cs
          else roundLast m s d cs
      | none =>
          if c = '_' ∧ started then
            if s < 28 then readFraction started m s cs
            else if m / 10 < longMantissa then roundLast m s 0 cs
            else
              match cs.dropWhile (· = '_') with
              | [] => some (m, s)
              | c :: cs => (digit? c).bind (fun d => roundLast m s d cs)
          else none

/-- Reads the digits before the point, and then those behind it. -/
def readWhole (started : Bool) (m : Nat) : List Char → Option (Nat × Nat)
  | [] => if started then some (m, 0) else none
  | c :: cs =>
      match digit? c with
      | some d => if 10 * m + d < 2 ^ (96 : Nat) then readWhole true (10 * m + d) cs else none
      | none =>
          if c = '.' then readFraction started m 0 cs
          else if c = '_' ∧ started then readWhole started m cs
          else none

def parsePlain? (cs : List Char) : Option Decimal :=
  match cs with
  | '-' :: cs => (readWhole false 0 cs).bind (fun (m, s) => ofParts? true m s)
  | '+' :: cs => (readWhole false 0 cs).bind (fun (m, s) => ofParts? false m s)
  | cs => (readWhole false 0 cs).bind (fun (m, s) => ofParts? false m s)

/-- Divides by a power of ten of at most 28 by moving the point. When there is no room
for more fractional digits the last ones are rounded away, a half upwards in magnitude.
The sign stays, even on a zero. -/
def movePointLeft? (d : Decimal) (n : Nat) : Option Decimal :=
  if d.scale + n ≤ 28 then make? d.negative d.mantissa (d.scale + n)
  else make? d.negative (divHalfUp d.mantissa (10 ^ (d.scale + n - 28))) 28

/-- Drops zeros from the right end of the fractional digits. -/
def stripZeros (m : Nat) : Nat → Nat × Nat
  | 0 => (m, 0)
  | s + 1 => if m % 10 = 0 then stripZeros (m / 10) s else (m, s + 1)

/-- Multiplies by the powers of ten whose exponents are listed. -/
def scaleUp? (d : Decimal) (powers : List Nat) : Option Decimal :=
  powers.foldlM (fun d n => (ofParts? false (10 ^ n) 0).bind d.mul?) d

/-- Multiplies by a power of ten of at most 28: by moving the point as long as there are
fractional digits for it, and otherwise by multiplication in steps of at most `10 ^ 19`,
after which zeros at the right end are dropped. -/
def movePointRight? (d : Decimal) (n : Nat) : Option Decimal :=
  if n ≤ d.scale then make? d.negative d.mantissa (d.scale - n)
  else
    (d.scaleUp? (if 19 < n then [19, n - 19] else [n])).bind fun product =>
      let (m, s) := stripZeros product.mantissa product.scale
      make? product.negative m s

/-- Reads the text behind an `e`: an optional minus sign, an optional plus sign and
digits. The first part says whether the exponent is negative. -/
def parseExponent? (cs : List Char) : Option (Bool × Nat) :=
  let unsigned (cs : List Char) : Option Nat :=
    match cs with
    | '+' :: cs => natOfDigits? cs
    | cs => natOfDigits? cs
  match cs with
  | '-' :: cs => (unsigned cs).map (true, ·)
  | cs => (unsigned cs).map (false, ·)

def parseScientific? (cs : List Char) : Option Decimal :=
  let isMark (c : Char) : Bool := c = 'e' || c = 'E'
  match cs.dropWhile (!isMark ·) with
  | [] => none
  | _ :: tail =>
      match parsePlain? (cs.takeWhile (!isMark ·)), parseExponent? tail with
      | some base, some (negative, exponent) =>
          if 28 < exponent then none
          else if negative then base.movePointLeft? exponent
          else base.movePointRight? exponent
      | _, _ => none

def ofChars? (cs : List Char) : Option Decimal :=
  match parsePlain? cs with
  | some d => some d
  | none => parseScientific? cs

def parse? (text : String) : Option Decimal :=
  ofChars? text.toList

end Decimal

end CurrencyWallet
