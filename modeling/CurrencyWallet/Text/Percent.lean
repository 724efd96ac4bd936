/-!
# Percent signs for bytes

In an address any byte may be written as a percent sign and two hexadecimal digits.
-/

namespace CurrencyWallet

namespace Text

/-- The value of a hexadecimal digit that is given as a byte. -/
def hexByte? (b : UInt8) : Option UInt8 :=
  if 0x30 ≤ b ∧ b ≤ 0x39 then some (b - 0x30)
  else if 0x41 ≤ b ∧ b ≤ 0x46 then some (b - 0x41 + 10)
  else if 0x61 ≤ b ∧ b ≤ 0x66 then some (b - 0x61 + 10)
  else none

def byteOfHex? (high low : UInt8) : Option UInt8 := do
  return 16 * (← hexByte? high) + (← hexByte? low)

/-- Reads percent signs with two digits as the bytes they stand for. A percent sign without
two digits stands for itself. -/
def decodePercent : List UInt8 → List UInt8
  | [] => []
  | [b] => [b]
  | [b, c] => [b, c]
  | b :: c :: d :: bs =>
      match if b = 0x25 then byteOfHex? c d else none with
      | some byte => byte :: decodePercent bs
      | none => b :: decodePercent (c :: d :: bs)

end Text

end CurrencyWallet
