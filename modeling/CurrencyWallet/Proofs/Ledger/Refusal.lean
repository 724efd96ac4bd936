import CurrencyWallet.Proofs.Ledger.Booking

/-!
# Why a mutation is refused

The books refuse a mutation that the rules allow for one of three reasons: the wallet is
missing, it does not cover the debit, or a balance would reach the limit. `Ledger.Refused`
lists them, each with the error that tells it.
-/

namespace CurrencyWallet

/-!
## Why a wallet refuses
-/

namespace Balances

section Refusal

variable {b : Balances} {c : Currency} {amount : Decimal} (hb : b.WellFormed)
  (hamount : 0 ≤ amount.value) (hplaces : amount.scale ≤ Decimal.balancePlaces)

include hb hamount hplaces

theorem exists_credit_of_lt_limit (hlt : (b.get c).value + amount.value < 10 ^ 18) :
    exists sum, sum.value = (b.get c).value + amount.value ∧
      b.credit c amount = .ok (b.set c sum) := by
  rcases Decimal.add?_of_lt_limit (hb c) hamount hplaces hlt with ⟨sum, hsum, hrange, hvalue⟩
  exact ⟨sum, hvalue, credit_eq_ok_iff.mpr ⟨sum, hsum, hrange, rfl⟩⟩

theorem exists_debit_of_covered (hle : amount.value ≤ (b.get c).value) :
    exists rest, rest.IsBalance ∧ rest.value = (b.get c).value - amount.value ∧
      b.debit c amount = .ok (b.set c rest) := by
  rcases Decimal.sub?_of_covered (hb c) hamount hplaces hle with ⟨rest, hrest, hbalance, hvalue⟩
  exact ⟨rest, hbalance, hvalue, debit_eq_ok_iff.mpr ⟨rest, hrest, rfl⟩⟩

theorem limit_le_of_credit_eq_error {e : LedgerError} (h : b.credit c amount = .error e) :
    e = .amountOutOfRange c ∧ 10 ^ 18 ≤ (b.get c).value + amount.value := by
  constructor
  · unfold credit at h
    split at h
    next =>
      split at h
      next =>
        cases h
      next =>
        cases h
        rfl
    next =>
      cases h
      rfl
  · by_contra hlt
    rcases exists_credit_of_lt_limit hb hamount hplaces (not_le.mp hlt) with
      ⟨sum, _hvalue, hcredit⟩
    rw [hcredit] at h
    cases h

end Refusal

end Balances

namespace Mutation

theorem checkFunds_eq_error {m : Mutation} {b : Balances} {e : LedgerError}
    (h : m.checkFunds b = .error e) :
    exists c x, m.debitLeg? = some (c, x) ∧ (b.get c).value < x.value ∧
      e = .insufficientFunds c x := by
  unfold checkFunds at h
  split at h
  next =>
    cases h
  next c x hleg =>
    split at h
    next hlt =>
      cases h
      exact ⟨c, x, hleg, Decimal.value_lt_value_iff.mpr hlt, rfl⟩
    next =>
      cases h

theorem apply_of_uncovered {m : Mutation} {b : Balances} {c : Currency} {requested : Decimal}
    (hvalid : m.validate = .ok ()) (hleg : m.debitLeg? = some (c, requested))
    (hlt : (b.get c).value < requested.value) :
    m.apply b = .error (.insufficientFunds c requested) := by
  have hfunds : m.checkFunds b = .error (.insufficientFunds c requested) := by
    unfold checkFunds
    rw [hleg]
    dsimp only
    rw [if_pos (Decimal.value_lt_value_iff.mp hlt)]
  rw [apply, hvalid, hfunds]
  rfl

theorem covered_of_checkFunds {m : Mutation} {b : Balances} {u : Unit}
    (h : m.checkFunds b = .ok u) : m.Covered (fun c => (b.get c).value) :=
  fun c x hleg => Decimal.value_le_value_iff.mpr (checkFunds_eq_ok_iff.mp h c x hleg)

/-- What is covered is refused only because a balance would reach the limit. -/
theorem limit_le_of_book_eq_error {m : Mutation} {b : Balances} {e : LedgerError}
    (hm : m.IsPositive) (hplaces : m.FitsPlaces) (hb : b.WellFormed)
    (hvalid : m.validate = .ok ()) (hcovered : m.Covered (fun c => (b.get c).value))
    (h : m.book b = .error e) :
    exists c, e = .amountOutOfRange c ∧ 10 ^ 18 ≤ (b.get c).value + m.change c := by
  cases m with
  | deposit c amount =>
      have hscale := hplaces amount (by simp [amounts, legs])
      rcases Balances.limit_le_of_credit_eq_error hb (le_of_lt hm) hscale h with ⟨he, hlimit⟩
      refine ⟨c, he, ?_⟩
      rw [change, if_pos rfl]
      exact hlimit
  | withdraw c amount =>
      have hscale := hplaces amount (by simp [amounts, legs])
      rcases Balances.exists_debit_of_covered hb (le_of_lt hm) hscale (hcovered c amount rfl) with
        ⟨rest, _hrest, _hvalue, hdebit⟩
      rw [book, hdebit] at h
      cases h
  | exchange source target debit credit =>
      have hne := ne_of_validate_exchange hvalid
      have hdebitScale := hplaces debit (by simp [amounts, legs])
      have hcreditScale := hplaces credit (by simp [amounts, legs])
      rcases Balances.exists_debit_of_covered hb (le_of_lt hm.left) hdebitScale
        (hcovered source debit rfl) with ⟨rest, hrest, _hvalue, hdebit⟩
      have htaken : (b.set source rest).WellFormed := Balances.forall_get_set hb hrest
      rw [book, hdebit] at h
      rcases Balances.limit_le_of_credit_eq_error htaken hm.right hcreditScale h with ⟨he, hlimit⟩
      refine ⟨target, he, ?_⟩
      rw [Balances.get_set_of_ne b rest hne.symm] at hlimit
      rw [change_exchange_target hne]
      exact hlimit

end Mutation

/-!
## Refusals are part of the business
-/

section Business

/-- The books refuse the request, as opposed to being out of order. -/
def LedgerError.IsBusiness (e : LedgerError) : Prop :=
  e.isBusiness = true

theorem Balances.failsOnly_credit (b : Balances) (c : Currency) (amount : Decimal) :
    FailsOnly LedgerError.IsBusiness (b.credit c amount) := by
  unfold credit
  split
  · split
    · exact failsOnly_ok _
    · exact failsOnly_error rfl
  · exact failsOnly_error rfl

theorem Balances.failsOnly_debit (b : Balances) (c : Currency) (amount : Decimal) :
    FailsOnly LedgerError.IsBusiness (b.debit c amount) := by
  unfold debit
  split
  · exact failsOnly_ok _
  · exact failsOnly_error rfl

theorem Mutation.failsOnly_book (m : Mutation) (b : Balances) :
    FailsOnly LedgerError.IsBusiness (m.book b) := by
  cases m with
  | deposit c amount =>
      exact b.failsOnly_credit c amount
  | withdraw c amount =>
      exact b.failsOnly_debit c amount
  | exchange source target debit credit =>
      exact (b.failsOnly_debit source debit).bind
        (fun b' _hdebit => b'.failsOnly_credit target credit)

theorem Mutation.failsOnly_validate (m : Mutation) :
    FailsOnly LedgerError.IsBusiness m.validate := by
  cases m with
  | deposit c amount =>
      exact failsOnly_ok _
  | withdraw c amount =>
      exact failsOnly_ok _
  | exchange source target debit credit =>
      unfold validate
      dsimp only
      split
      · exact failsOnly_error rfl
      · exact failsOnly_ok _

theorem Mutation.failsOnly_apply (m : Mutation) (b : Balances) :
    FailsOnly LedgerError.IsBusiness (m.apply b) := by
  apply m.failsOnly_validate.bind
  intro _u _hvalid
  apply FailsOnly.bind
  · intro e hfunds
    rcases checkFunds_eq_error hfunds with ⟨c, x, _hleg, _hlt, rfl⟩
    rfl
  · intro _u' _hfunds
    exact m.failsOnly_book b

theorem Ledger.failsOnly_outcome (l : Ledger) (user : UserId) (m : Mutation) :
    FailsOnly LedgerError.IsBusiness (l.outcome user m) := by
  apply FailsOnly.bind
  · unfold balances
    split
    · exact failsOnly_ok _
    · exact failsOnly_error rfl
  · intro b _hbalances
    exact m.failsOnly_apply b

theorem Ledger.failsOnly_apply (l : Ledger) (user : UserId) (m : Mutation) :
    FailsOnly LedgerError.IsBusiness (l.apply user m).1 := by
  unfold apply
  split
  next b hok =>
    exact failsOnly_ok _
  next e herror =>
    exact failsOnly_error (l.failsOnly_outcome user m e herror)

end Business

/-!
## Why the books refuse
-/

namespace Ledger

/-- The books have a reason to refuse the mutation, and this error tells it. -/
inductive Refused (l : Ledger) (user : UserId) (m : Mutation) : LedgerError -> Prop where
  | missing :
      l.wallets.get? user = none ->
      Refused l user m (.walletNotFound user)
  | uncovered {b : Balances} {c : Currency} {requested : Decimal} :
      l.wallets.get? user = some b ->
      m.debitLeg? = some (c, requested) ->
      (b.get c).value < requested.value ->
      Refused l user m (.insufficientFunds c requested)
  | overflow {b : Balances} {c : Currency} :
      l.wallets.get? user = some b ->
      m.Covered (fun c => (b.get c).value) ->
      10 ^ 18 ≤ (b.get c).value + m.change c ->
      Refused l user m (.amountOutOfRange c)

theorem refused_of_outcome {l : Ledger} {user : UserId} {m : Mutation} {e : LedgerError}
    (hl : l.Every Balances.WellFormed) (hm : m.IsPositive) (hplaces : m.FitsPlaces)
    (hvalid : m.validate = .ok ()) (h : l.outcome user m = .error e) : l.Refused user m e := by
  cases hget : l.wallets.get? user with
  | none =>
      rw [outcome, balances, hget] at h
      cases h
      exact Refused.missing hget
  | some b =>
      rw [outcome, balances, hget] at h
      change m.apply b = .error e at h
      rw [Mutation.apply, hvalid] at h
      cases hfunds : m.checkFunds b with
      | error e' =>
          rw [hfunds] at h
          cases h
          rcases Mutation.checkFunds_eq_error hfunds with ⟨c, x, hleg, hlt, rfl⟩
          exact Refused.uncovered hget hleg hlt
      | ok u =>
          rw [hfunds] at h
          have hcovered := Mutation.covered_of_checkFunds hfunds
          rcases Mutation.limit_le_of_book_eq_error hm hplaces (hl user b hget) hvalid hcovered h
            with ⟨c, rfl, hlimit⟩
          exact Refused.overflow hget hcovered hlimit

end Ledger

end CurrencyWallet
