import CurrencyWallet.Power

/-!
# Numbers of a fixed width

Numbers in decimal digits, filled up with zeros on the left. A number that is too long for the
width is written in full.
-/

namespace CurrencyWallet

namespace Text

/-- The decimal digits of `n`, filled up with zeros to a width. -/
def padded (width n : Nat) : String :=
  let all := Nat.toDigits 10 n
  String.ofList (List.replicate (width - all.length) '0' ++ all)

theorem ofDigitChars_padded (width n : Nat) :
    Nat.ofDigitChars 10 (padded width n).toList 0 = n := by
  rw [padded, String.toList_ofList, Nat.ofDigitChars_append, Nat.ofDigitChars_replicate_zero,
    Nat.mul_zero, Nat.ofDigitChars_ten_toDigits]

/-- Different numbers are written differently. -/
theorem padded_injective {width m n : Nat} (h : padded width m = padded width n) : m = n := by
  rw [← ofDigitChars_padded width m, h, ofDigitChars_padded]

end Text

end CurrencyWallet
