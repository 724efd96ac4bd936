import CurrencyWallet.Proofs.Decimal.Order
import CurrencyWallet.Proofs.Service.Conversion

/-!
# Greater amounts and better rates

Three roundings stand between an amount and what is given for it, and each of them keeps the
order. So whoever exchanges less at a rate that is no better takes and gets no more, and can
exchange whenever the others can.
-/

namespace CurrencyWallet

open Decimal

namespace Conversion

/-- What is taken and what is given grow with the amount and the rate. An amount that comes to
something can be exchanged at a rate when a greater one can be at a better rate. -/
theorem compute_mono {amount amount' rate rate' : Decimal} {c' : Conversion}
    (hamount : amount ≤ amount') (hdebit : .zero < amount.roundAmount) (hrate : .zero < rate)
    (hrates : rate ≤ rate') (h : compute amount' rate' = .ok c') :
    exists c, compute amount rate = .ok c ∧ c.debit ≤ c'.debit ∧ c.credit ≤ c'.credit := by
  rw [← value_le_value_iff] at hamount hrates
  rw [← value_pos_iff] at hdebit hrate
  rcases compute_eq_ok h with ⟨hdebit', _hpos, product', hproduct', hcredit'⟩
  have hdebits : amount.roundAmount.value ≤ c'.debit.value := by
    rw [hdebit']
    exact round_mono amountPlaces hamount
  rcases mul?_mono hdebit hrate hdebits hrates scale_add_scale_le (scale_debit_add_le h)
    hproduct' with ⟨product, hproduct, hproducts⟩
  refine ⟨_, compute_eq_ok_of_mul? hdebit hproduct, value_le_value_iff.mp hdebits, ?_⟩
  rw [← value_le_value_iff, hcredit']
  exact round_mono balancePlaces hproducts

theorem compute_mono_eight :
    let amount : Decimal := ⟨false, 994, 3, by decide, by decide⟩
    let amount' : Decimal := ⟨false, 1, 0, by decide, by decide⟩
    let rate : Decimal := ⟨false, 79228162514264337593543950335, 28, by decide, by decide⟩
    let rate' : Decimal := ⟨false, 8, 0, by decide, by decide⟩
    (amount ≤ amount' ∧ .zero < amount.roundAmount ∧ .zero < rate ∧ rate ≤ rate') ∧
      compute amount' rate' = .ok ⟨amount', rate'⟩ ∧
      exists c, compute amount rate = .ok c ∧ c.debit ≤ amount' ∧ c.credit ≤ rate' := by
  intro amount amount' rate rate'
  have hamount : amount ≤ amount' := by decide
  have hdebit : .zero < amount.roundAmount := by decide
  have hrate : .zero < rate := by decide
  have hrates : rate ≤ rate' := by decide
  have hcompute : compute amount' rate' = .ok ⟨amount', rate'⟩ := by decide +kernel
  exact ⟨⟨hamount, hdebit, hrate, hrates⟩, hcompute,
    compute_mono hamount hdebit hrate hrates hcompute⟩

end Conversion

end CurrencyWallet
