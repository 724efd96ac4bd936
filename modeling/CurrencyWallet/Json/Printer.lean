import CurrencyWallet.Json.Value

/-!
# Writing JSON

The text of a value without any blanks. In a text only quotes, backslashes and control
characters are escaped.
-/

namespace CurrencyWallet

namespace Json

/-- A character of a text as it is written between the quotes. -/
def escape (c : Char) : List Char :=
  if c = '"' then ['\\', '"']
  else if c = '\\' then ['\\', '\\']
  else if c.toNat < 0x20 then
    '\\' :: 'u' :: '0' :: '0' :: [Nat.digitChar (c.toNat / 16), Nat.digitChar (c.toNat % 16)]
  else [c]

def printString (s : List Char) : List Char :=
  '"' :: (s.flatMap escape ++ ['"'])

def printNumeral (n : Numeral) : List Char :=
  let unsigned := Decimal.digits n.digits n.places ++
    match n.exponent with
    | none => []
    | some e => 'e' :: (toString e).toList
  if n.negative then '-' :: unsigned else unsigned

mutual

def print : Json → List Char
  | .null => ['n', 'u', 'l', 'l']
  | .bool true => ['t', 'r', 'u', 'e']
  | .bool false => ['f', 'a', 'l', 's', 'e']
  | .number n => printNumeral n
  | .string s => printString s.toList
  | .array items => '[' :: (printItems items ++ [']'])
  | .object members => '\x7b' :: (printMembers members ++ ['\x7d'])
  | .broken => ['n', 'u', 'l', 'l']

def printItems : List Json → List Char
  | [] => []
  | [j] => print j
  | j :: js => print j ++ ',' :: printItems js

/-- The texts of named values with commas between them. -/
def printMembers : List (String × Json) → List Char
  | [] => []
  | [(name, j)] => printString name.toList ++ ':' :: print j
  | (name, j) :: ms => printString name.toList ++ ':' :: (print j ++ ',' :: printMembers ms)

end

def render (j : Json) : String :=
  String.ofList j.print

end Json

end CurrencyWallet
