import CurrencyWallet.Currency
import CurrencyWallet.Text.Quoted

/-!
# Rate errors

Why there is no rate.
-/

namespace CurrencyWallet

/-- Why there is no rate. -/
inductive RateError where
  | notAvailable (pair : CurrencyPair)
  /-- The provider cannot be reached or does not answer in time. -/
  | unavailable (reason : String)
  | provider (detail : String)
  | invalidRate (text : String)
  | invalidEndpoint (detail : String)
deriving DecidableEq

namespace RateError

def message : RateError → String
  | notAvailable pair => s!"Rate not available for {pair}"
  | unavailable reason => s!"Rate provider unavailable: {reason}"
  | provider detail => s!"Rate provider error: {detail}"
  | invalidRate text => s!"Invalid rate: {Text.quoted text}"
  | invalidEndpoint detail => s!"Invalid rate provider endpoint: {detail}"

def code : RateError → String
  | notAvailable _ => "RATE_NOT_AVAILABLE"
  | unavailable _ => "RATE_PROVIDER_UNAVAILABLE"
  | provider _ => "RATE_PROVIDER_ERROR"
  | invalidRate _ => "INVALID_RATE"
  | invalidEndpoint _ => "CONFIGURATION_ERROR"

end RateError

end CurrencyWallet
