import CurrencyWallet.Rates.Provider

/-!
# Rates for simulations

Fixed rates for all pairs, for when there is no rate service.
-/

namespace CurrencyWallet

namespace ListedRates

def fixed : ListedRates where
  rates := Directory.ofList
    [(⟨.rub, .usd⟩, "0.011"), (⟨.rub, .eur⟩, "0.010"), (⟨.usd, .rub⟩, "90.25"),
      (⟨.usd, .eur⟩, "0.92"), (⟨.eur, .rub⟩, "98.10"), (⟨.eur, .usd⟩, "1.087")]
  table := [("USD", "1"), ("RUB", "90.25"), ("EUR", "0.92")]
  unavailable := false
  delay := 0

end ListedRates

end CurrencyWallet
