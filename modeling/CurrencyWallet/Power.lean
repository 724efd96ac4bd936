/-!
# Powers

Powers with natural exponents are the ones that come with the natural numbers
and the integers themselves. This is so in every module of the library, whatever
else is imported, so definitions and statements about them agree to the letter.
The definitions write out the type of an exponent that is a numeral. Outside the
namespace nothing changes.
-/

namespace CurrencyWallet

attribute [scoped instance (2000)] instPowNat

end CurrencyWallet
