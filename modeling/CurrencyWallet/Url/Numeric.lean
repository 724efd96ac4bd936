import CurrencyWallet.Decimal.Parser
import CurrencyWallet.Power
import CurrencyWallet.Text.Hex
import CurrencyWallet.Text.Split

/-!
# Machines by number

The number of a machine has four bytes, written with points, or eight groups of 16 bits,
written with colons. A run of zero groups may be left out, and the last two groups may be
written like four bytes.

A web address is more liberal: it also accepts the four bytes as fewer numbers, the last of
which stands for all bytes that are left, and each number in octal or hexadecimal digits.
-/

namespace CurrencyWallet

namespace Url

/-- Whether a text is a number from 0 to 255 without needless zeros. -/
def isByte (cs : List Char) : Bool :=
  (cs.length = 1 || cs.head? != some '0') && (natOfDigits? cs).any (· < 256)

/-- Whether a text is four bytes with points between them. -/
def isIpv4 (cs : List Char) : Bool :=
  let parts := Text.split '.' cs
  parts.length = 4 && parts.all isByte

def isGroup (cs : List Char) : Bool :=
  !cs.isEmpty && cs.length ≤ 4 && cs.all (fun c => (hexDigit? c).isSome)

/-- How many groups there are. Four bytes count as two groups and may come last, if they may
come at all. -/
def countGroups? (bytes : Bool) : List (List Char) → Option Nat
  | [] => some 0
  | [part] => if isGroup part then some 1 else if bytes && isIpv4 part then some 2 else none
  | part :: parts => if isGroup part then (countGroups? bytes parts).map (· + 1) else none

/-- How many groups a text has. An empty text has none. -/
def groups? (bytes : Bool) (cs : List Char) : Option Nat :=
  if cs.isEmpty then some 0 else countGroups? bytes (Text.split ':' cs)

/-- What stands on either side of the first two colons in a row. -/
def splitGap? : List Char → Option (List Char × List Char)
  | ':' :: ':' :: cs => some ([], cs)
  | c :: cs => (splitGap? cs).map (fun (left, right) => (c :: left, right))
  | [] => none

/-- Whether a text is eight groups with colons between them. Two colons in a row stand for
one or more groups. -/
def isIpv6 (cs : List Char) : Bool :=
  match splitGap? cs with
  | none => groups? true cs = some 8
  | some (left, right) =>
      match groups? false left, groups? true right with
      | some m, some n => m + n ≤ 7
      | _, _ => false

/-- The number written by digits of a base. No digits stand for zero. -/
def natOfBase? (base : Nat) (cs : List Char) : Option Nat :=
  cs.foldlM (fun n c => ((hexDigit? c).filter (· < base)).map (base * n + ·)) 0

/-- A number in a web address. A leading zero announces octal digits, a leading `0x`
hexadecimal ones. -/
def looseNumber? : List Char → Option Nat
  | [] => none
  | '0' :: 'x' :: cs => natOfBase? 16 cs
  | '0' :: 'X' :: cs => natOfBase? 16 cs
  | '0' :: c :: cs => natOfBase? 8 (c :: cs)
  | cs => natOfBase? 10 cs

/-- The parts of a name. A point at the end adds no part. -/
def nameParts (cs : List Char) : List (List Char) :=
  let parts := Text.split '.' cs
  if parts.length ≠ 1 ∧ parts.getLast? = some [] then parts.dropLast else parts

/-- A name in a web address is meant as a number when its last part is one, or has only
digits. -/
def endsInNumber (cs : List Char) : Bool :=
  match (nameParts cs).getLast? with
  | some part => (natOfDigits? part).isSome || (looseNumber? part).isSome
  | none => false

/-- Whether a text is the number of a machine as web addresses have it. -/
def isLooseIpv4 (cs : List Char) : Bool :=
  let parts := nameParts cs
  match (parts.mapM looseNumber?).map List.reverse with
  | some (last :: others) =>
      others.length ≤ 3 && others.all (· < 256) && last < 256 ^ (4 - others.length)
  | _ => false

end Url

end CurrencyWallet
