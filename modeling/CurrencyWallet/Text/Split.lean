/-!
# Texts in parts

A text with separators in it is a list of parts, one more than there are separators.
-/

namespace CurrencyWallet

namespace Text

def split (separator : Char) : List Char → List (List Char)
  | [] => [[]]
  | c :: cs =>
      if c = separator then [] :: split separator cs
      else
        match split separator cs with
        | part :: parts => (c :: part) :: parts
        | [] => [[c]]

/-- What stands before the first separator, and what stands behind it. -/
def splitFirst (separator : Char) (cs : List Char) : List Char × List Char :=
  (cs.takeWhile (· ≠ separator), (cs.dropWhile (· ≠ separator)).drop 1)

end Text

end CurrencyWallet
