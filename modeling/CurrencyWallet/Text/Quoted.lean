import CurrencyWallet.Text.Hidden

/-!
# Quoted text

A text in double quotes that shows every character: quotes and backslashes are escaped,
tabs, line ends and the null character have escapes of two characters, and any other
hidden character is shown by its number.
-/

namespace CurrencyWallet

namespace Text

def escape (c : Char) : List Char :=
  match c with
  | '"' => ['\\', '"']
  | '\\' => ['\\', '\\']
  | '\t' => ['\\', 't']
  | '\r' => ['\\', 'r']
  | '\n' => ['\\', 'n']
  | '\x00' => ['\\', '0']
  | c =>
      if isHidden c then '\\' :: 'u' :: '\x7b' :: (Nat.toDigits 16 c.toNat ++ ['\x7d'])
      else [c]

/-- The text in quotes, with hidden characters shown. -/
def quoted (text : String) : String :=
  String.ofList ('"' :: (text.toList.flatMap escape ++ ['"']))

end Text

end CurrencyWallet
