/-!
# Hexadecimal digits

Numbers in digits of base 16. Both cases are read, and the small one is written.
-/

namespace CurrencyWallet

def hexDigit? (c : Char) : Option Nat :=
  if '0' ≤ c ∧ c ≤ '9' then some (c.toNat - '0'.toNat)
  else if 'a' ≤ c ∧ c ≤ 'f' then some (c.toNat - 'a'.toNat + 10)
  else if 'A' ≤ c ∧ c ≤ 'F' then some (c.toNat - 'A'.toNat + 10)
  else none

/-- The small hexadecimal digits of `n`, filled up with zeros to a width. -/
def hexDigits (width n : Nat) : List Char :=
  let all := Nat.toDigits 16 n
  List.replicate (width - all.length) '0' ++ all

def natOfHex? (cs : List Char) : Option Nat :=
  cs.foldlM (fun n c => (hexDigit? c).map (16 * n + ·)) 0

end CurrencyWallet
