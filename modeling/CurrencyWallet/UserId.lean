import CurrencyWallet.Power
import CurrencyWallet.Text.Hex

/-!
# User ids

A user id is a number of 128 bits. It is written as 32 small hexadecimal digits in five
groups. Reading also accepts capital digits, the digits without hyphens, the grouped
form in braces, and the grouped form behind `urn:uuid:`.
-/

namespace CurrencyWallet

/-- The identity of a user and of the wallet that belongs to the user. -/
structure UserId where
  value : Nat
  /-- The id has 128 bits. -/
  value_lt : value < 2 ^ (128 : Nat)
deriving DecidableEq

namespace UserId

def ofNat (n : Nat) : UserId where
  value := n % 2 ^ (128 : Nat)
  value_lt := Nat.mod_lt _ (by decide)

instance : Inhabited UserId := ⟨ofNat 0⟩

/-- Puts hyphens between groups of 8, 4, 4, 4 and 12 digits. -/
def group (digits : List Char) : List Char :=
  digits.take 8 ++ '-' :: (digits.drop 8).take 4 ++ '-' :: (digits.drop 12).take 4 ++
    '-' :: (digits.drop 16).take 4 ++ '-' :: digits.drop 20

def toChars (id : UserId) : List Char :=
  group (hexDigits 32 id.value)

instance : ToString UserId where
  toString id := String.ofList id.toChars

def ofDigits? (cs : List Char) : Option UserId :=
  if cs.length = 32 then (natOfHex? cs).map ofNat else none

def ofGrouped? (cs : List Char) : Option UserId :=
  let digits := cs.filter (· ≠ '-')
  if group digits = cs then ofDigits? digits else none

def ofChars? (cs : List Char) : Option UserId :=
  if cs.length = 32 then ofDigits? cs
  else if cs.length = 36 then ofGrouped? cs
  else if cs.length = 38 ∧ cs.head? = some '\x7b' ∧ cs.getLast? = some '\x7d' then
    ofGrouped? (cs.drop 1).dropLast
  else if (cs.take 9).map Char.toLower = "urn:uuid:".toList then ofGrouped? (cs.drop 9)
  else none

def parse? (text : String) : Option UserId :=
  ofChars? text.toList

/-- The `n`-th of a series of ids, each with the marks of a random id. Different numbers
below `2 ^ 62` give different ids. -/
def serial (n : Nat) : UserId :=
  ofNat (0x52c3a8e19d744b6f * 2 ^ (64 : Nat) + 2 ^ (63 : Nat) + n % 2 ^ (62 : Nat))

end UserId

end CurrencyWallet
