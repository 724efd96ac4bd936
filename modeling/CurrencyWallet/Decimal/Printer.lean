import CurrencyWallet.Decimal.Basic

/-!
# The text of a decimal

A decimal is written with exactly as many fractional digits as its scale says and with
at least one digit before the point. No exponent is ever written.
-/

namespace CurrencyWallet

namespace Decimal

/-- The digits of a decimal without its sign: a point stands before the last `scale`
digits. -/
def digits (mantissa scale : Nat) : List Char :=
  let all := Nat.toDigits 10 mantissa
  let padded := List.replicate (scale + 1 - all.length) '0' ++ all
  let whole := padded.take (padded.length - scale)
  if scale = 0 then whole
  else whole ++ '.' :: padded.drop (padded.length - scale)

def toChars (d : Decimal) : List Char :=
  if d.negative then '-' :: digits d.mantissa d.scale else digits d.mantissa d.scale

instance : ToString Decimal where
  toString d := String.ofList d.toChars

end Decimal

end CurrencyWallet
