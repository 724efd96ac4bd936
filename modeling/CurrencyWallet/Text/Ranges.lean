import CurrencyWallet.Text.Hex

/-!
# Sets of characters

A set of characters is a list of ranges of their numbers. Long sets are written as a table:
words with a blank or a line end between them, each of which is a number in hexadecimal
digits, or two with a hyphen between them.
-/

namespace CurrencyWallet

namespace Text

/-- Characters, given by closed ranges of their numbers. -/
structure CharRanges where
  /-- The least and the greatest number of each range. -/
  ranges : List (Nat × Nat)

namespace CharRanges

def contains (r : CharRanges) (c : Char) : Bool :=
  r.ranges.any (fun (low, high) => low ≤ c.toNat && c.toNat ≤ high)

end CharRanges

def tableWords (table : String) : List String :=
  ((table.splitOn "\n").flatMap (·.splitOn " ")).filter (· ≠ "")

/-- The range that is written by a word: one number, or two with a hyphen between them. -/
def rangeOfWord? (word : String) : Option (Nat × Nat) :=
  match (word.splitOn "-").map (fun part => natOfHex? part.toList) with
  | [some n] => some (n, n)
  | [some low, some high] => some (low, high)
  | _ => none

/-- The characters written by numbers with commas between them. -/
def charsOfWord (word : String) : List Char :=
  (word.splitOn ",").filterMap (fun part => (natOfHex? part.toList).map Char.ofNat)

def CharRanges.ofTable (table : String) : CharRanges where
  ranges := (tableWords table).filterMap rangeOfWord?

end Text

end CurrencyWallet
