import CurrencyWallet.Currency
import CurrencyWallet.Decimal.Basic

/-!
# Balances

The contents of a wallet: one balance in each currency.
-/

namespace CurrencyWallet

/-- What a wallet holds. -/
structure Balances where
  rub : Decimal
  usd : Decimal
  eur : Decimal
deriving DecidableEq

namespace Balances

def zero : Balances :=
  ⟨.zero, .zero, .zero⟩

def get (b : Balances) : Currency → Decimal
  | .rub => b.rub
  | .usd => b.usd
  | .eur => b.eur

def set (b : Balances) (c : Currency) (d : Decimal) : Balances :=
  match c with
  | .rub => { b with rub := d }
  | .usd => { b with usd := d }
  | .eur => { b with eur := d }

def NonNegative (b : Balances) : Prop :=
  ∀ c ∈ Currency.all, Decimal.zero ≤ b.get c

instance (b : Balances) : Decidable b.NonNegative :=
  inferInstanceAs (Decidable (∀ c ∈ Currency.all, Decimal.zero ≤ b.get c))

theorem get_set (b : Balances) (c c' : Currency) (d : Decimal) :
    (b.set c d).get c' = if c' = c then d else b.get c' := by
  cases c <;> cases c' <;> rfl

@[ext] theorem ext_get {a b : Balances} (h : ∀ c, a.get c = b.get c) : a = b := by
  cases a
  cases b
  have h₁ := h .rub
  have h₂ := h .usd
  have h₃ := h .eur
  simp only [get] at h₁ h₂ h₃
  subst h₁ h₂ h₃
  rfl

end Balances

end CurrencyWallet
