import CurrencyWallet.Proofs.Ledger.Refusal
import Mathlib.Logic.Function.Basic

/-!
# Mutations in exact numbers

`Mutation.exactly` is what a mutation makes of a wallet whose balances are rational numbers:
nothing is rounded, and every case in which it is refused is told apart. The main statement
says that a wallet of decimals goes the same way, to the same error or to the same numbers.
-/

namespace CurrencyWallet

/-!
## One balance
-/

namespace Balances

theorem value_get_set (b : Balances) (c : Currency) (d : Decimal) :
    (fun c' => ((b.set c d).get c').value) =
      Function.update (fun c' => (b.get c').value) c d.value := by
  funext c'
  by_cases hc : c' = c
  · rw [hc, get_set_self, Function.update_self]
  · rw [get_set_of_ne b d hc, Function.update_of_ne hc]

section Exact

variable {b : Balances} {c : Currency} {amount : Decimal} (hb : b.WellFormed)
  (hamount : 0 ≤ amount.value) (hplaces : amount.scale ≤ Decimal.balancePlaces)

include hb hamount hplaces

theorem credit_of_limit_le (hle : 10 ^ 18 ≤ (b.get c).value + amount.value) :
    b.credit c amount = .error (.amountOutOfRange c) := by
  cases hcredit : b.credit c amount with
  | error e =>
      rw [(limit_le_of_credit_eq_error hb hamount hplaces hcredit).left]
  | ok b' =>
      exfalso
      rcases credit_eq_ok_iff.mp hcredit with ⟨sum, hsum, hrange, _hset⟩
      exact absurd (Decimal.lt_limit_of_add? hsum hrange) (not_lt.mpr hle)

end Exact

end Balances

/-!
## Mutations
-/

namespace Mutation

/-- What a mutation makes of balances that are rational numbers, or the error that it is
refused with. -/
def exactly (m : Mutation) (row : Currency -> ℚ) : Except LedgerError (Currency -> ℚ) :=
  match m with
  | deposit c amount =>
      if row c + amount.value < 10 ^ 18 then
        .ok (Function.update row c (row c + amount.value))
      else
        .error (.amountOutOfRange c)
  | withdraw c amount =>
      if row c < amount.value then
        .error (.insufficientFunds c amount)
      else
        .ok (Function.update row c (row c - amount.value))
  | exchange source target debit credit =>
      if source = target then
        .error (.sameCurrency source)
      else if row source < debit.value then
        .error (.insufficientFunds source debit)
      else if row target + credit.value < 10 ^ 18 then
        .ok (Function.update (Function.update row source (row source - debit.value)) target
          (row target + credit.value))
      else
        .error (.amountOutOfRange target)

theorem apply_of_checks {m : Mutation} {b : Balances} (hvalid : m.validate = .ok ())
    (hcovered : m.Covered (fun c => (b.get c).value)) : m.apply b = m.book b := by
  have hfunds : m.checkFunds b = .ok () :=
    checkFunds_eq_ok_iff.mpr (fun c x hleg => Decimal.value_le_value_iff.mp (hcovered c x hleg))
  rw [apply, hvalid, hfunds]
  rfl

theorem covered_of_debitLeg {m : Mutation} {row : Currency -> ℚ} {c : Currency} {x : Decimal}
    (hleg : m.debitLeg? = some (c, x)) (hle : x.value ≤ row c) : m.Covered row := by
  intro c' x' hleg'
  rw [hleg] at hleg'
  cases hleg'
  exact hle

section Exact

variable {b : Balances} (hb : b.WellFormed)

include hb

theorem apply_deposit_eq {c : Currency} {amount : Decimal} (hamount : 0 ≤ amount.value)
    (hplaces : amount.scale ≤ Decimal.balancePlaces) :
    ((deposit c amount).apply b).map (fun b' c => (b'.get c).value) =
      (deposit c amount).exactly (fun c => (b.get c).value) := by
  have happly : (deposit c amount).apply b = b.credit c amount := rfl
  rw [happly, exactly]
  rcases lt_or_ge ((b.get c).value + amount.value) (10 ^ 18) with hlt | hge
  · rcases Balances.exists_credit_of_lt_limit hb hamount hplaces hlt with ⟨sum, hvalue, hcredit⟩
    rw [if_pos hlt, hcredit, Except.map, Balances.value_get_set, hvalue]
  · rw [if_neg (not_lt.mpr hge), Balances.credit_of_limit_le hb hamount hplaces hge]
    rfl

theorem apply_withdraw_eq {c : Currency} {amount : Decimal} (hamount : 0 ≤ amount.value)
    (hplaces : amount.scale ≤ Decimal.balancePlaces) :
    ((withdraw c amount).apply b).map (fun b' c => (b'.get c).value) =
      (withdraw c amount).exactly (fun c => (b.get c).value) := by
  rw [exactly]
  rcases lt_or_ge (b.get c).value amount.value with hlt | hge
  · rw [if_pos hlt, apply_of_uncovered rfl rfl hlt]
    rfl
  · rcases Balances.exists_debit_of_covered hb hamount hplaces hge with ⟨rest, _hrest, hvalue, hdebit⟩
    rw [if_neg (not_lt.mpr hge), apply_of_checks rfl (covered_of_debitLeg rfl hge), book, hdebit,
      Except.map, Balances.value_get_set, hvalue]

theorem apply_exchange_eq {source target : Currency} {debit credit : Decimal}
    (hdebit : 0 ≤ debit.value) (hcredit : 0 ≤ credit.value)
    (hplaces : (exchange source target debit credit).FitsPlaces) :
    ((exchange source target debit credit).apply b).map (fun b' c => (b'.get c).value) =
      (exchange source target debit credit).exactly (fun c => (b.get c).value) := by
  have hdebitScale := hplaces debit (by simp [amounts, legs])
  have hcreditScale := hplaces credit (by simp [amounts, legs])
  rw [exactly]
  by_cases hsame : source = target
  · rw [if_pos hsame, apply, validate, if_pos hsame]
    rfl
  · have hvalid : (exchange source target debit credit).validate = .ok () := by
      rw [validate, if_neg hsame]
    rw [if_neg hsame]
    rcases lt_or_ge (b.get source).value debit.value with hlt | hge
    · rw [if_pos hlt, apply_of_uncovered hvalid rfl hlt]
      rfl
    · rcases Balances.exists_debit_of_covered hb hdebit hdebitScale hge with
        ⟨rest, hrest, hrestValue, htaken⟩
      -- The balance that is credited is not the one that has been debited.
      have hother : (b.set source rest).get target = b.get target :=
        Balances.get_set_of_ne b rest (Ne.symm hsame)
      have htakenForm : (b.set source rest).WellFormed := Balances.forall_get_set hb hrest
      have hbook : (exchange source target debit credit).book b =
          (b.set source rest).credit target credit := by
        rw [book, htaken]
        rfl
      rw [if_neg (not_lt.mpr hge), apply_of_checks hvalid (covered_of_debitLeg rfl hge), hbook,
        ← hother]
      rcases lt_or_ge (((b.set source rest).get target).value + credit.value) (10 ^ 18)
        with hbelow | hlimit
      · rcases Balances.exists_credit_of_lt_limit htakenForm hcredit hcreditScale hbelow with
          ⟨sum, hsumValue, hgiven⟩
        rw [if_pos hbelow, hgiven, Except.map, Balances.value_get_set, Balances.value_get_set,
          hrestValue, hsumValue]
      · rw [if_neg (not_lt.mpr hlimit),
          Balances.credit_of_limit_le htakenForm hcredit hcreditScale hlimit]
        rfl

/-- A mutation of decimals has the outcome that it has in exact numbers. The balances that it
does not touch stay what they are to the last digit, and all of them stay balances. -/
theorem apply_eq_exactly {m : Mutation} (hm : m.IsPositive) (hplaces : m.FitsPlaces) :
    (m.apply b).map (fun b' c => (b'.get c).value) = m.exactly (fun c => (b.get c).value) ∧
      forall b', m.apply b = .ok b' ->
        b'.WellFormed ∧ forall c, c ∉ m.legs.map Prod.fst -> b'.get c = b.get c := by
  constructor
  · cases m with
    | deposit c amount =>
        exact apply_deposit_eq hb (le_of_lt hm) (hplaces amount (by simp [amounts, legs]))
    | withdraw c amount =>
        exact apply_withdraw_eq hb (le_of_lt hm) (hplaces amount (by simp [amounts, legs]))
    | exchange source target debit credit =>
        exact apply_exchange_eq hb (le_of_lt hm.left) hm.right hplaces
  · intro b' happly
    have hbooked := booked_of_apply happly
    exact ⟨(wellFormed_of_booked hm hplaces hb hbooked).left,
      fun c hc => get_of_booked hbooked hc⟩

end Exact

theorem apply_eq_exactly_at_limit :
    let b : Balances := ⟨⟨false, 500, 0, by decide, by decide⟩,
      ⟨false, 9999999999999999999999999995, 10, by decide, by decide⟩, .zero⟩
    let debit : Decimal := ⟨false, 50000, 2, by decide, by decide⟩
    let credit : Decimal := ⟨false, 5, 10, by decide, by decide⟩
    let m := exchange .rub .usd debit credit
    (b.WellFormed ∧ m.IsPositive ∧ m.FitsPlaces) ∧
      ((m.apply b).map (fun b' c => (b'.get c).value) = m.exactly (fun c => (b.get c).value) ∧
        forall b', m.apply b = .ok b' ->
          b'.WellFormed ∧ forall c, c ∉ m.legs.map Prod.fst -> b'.get c = b.get c) ∧
      m.apply b = .error (.amountOutOfRange .usd) := by
  intro b debit credit m
  have hb : b.WellFormed := by decide
  have hm : m.IsPositive := by decide
  have hplaces : m.FitsPlaces := by decide
  exact ⟨⟨hb, hm, hplaces⟩, apply_eq_exactly hb hm hplaces, by decide +kernel⟩

end Mutation

end CurrencyWallet
