import CurrencyWallet.Decimal.Parser
import CurrencyWallet.Rates.Error
import CurrencyWallet.Text.Blank

/-!
# Quotes

Rates travel as text, so that no digit is lost before they are read as decimals. A table
gives one rate for each currency code.
-/

namespace CurrencyWallet

/-- A table of quoted rates by currency code. -/
abbrev RateTable := List (String × String)

/-- Reads a quoted rate: a positive decimal, with blanks around it or not. -/
def parseRate (text : String) : Except RateError Decimal :=
  match Decimal.ofChars? (Text.trim text.toList) with
  | some rate => if Decimal.zero < rate then .ok rate else .error (.invalidRate text)
  | none => .error (.invalidRate text)

end CurrencyWallet
