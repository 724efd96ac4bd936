import CurrencyWallet.Ledger.Mutation
import CurrencyWallet.Proofs.Decimal.Balance
import CurrencyWallet.Proofs.Success

/-!
# What a mutation does to a wallet

`Mutation.Booked` lists the ways in which a mutation succeeds, with everything that was
checked on the way. All that is said about wallets afterwards is read off it: the bounds
of the balances, the exact sums, and the balances that are left alone.
-/

namespace CurrencyWallet

namespace Balances

def WithinBounds (b : Balances) : Prop :=
  forall c, (b.get c).WithinBounds

def WellFormed (b : Balances) : Prop :=
  forall c, (b.get c).IsBalance

theorem forall_get_iff {p : Decimal -> Prop} {b : Balances} :
    (forall c, p (b.get c)) <-> forall c, c ∈ Currency.all -> p (b.get c) := by
  constructor
  · intro h c _hc
    exact h c
  · intro h c
    exact h c (by cases c <;> decide)

instance (b : Balances) : Decidable b.WithinBounds :=
  decidable_of_iff _ forall_get_iff.symm

instance (b : Balances) : Decidable b.WellFormed :=
  decidable_of_iff _ forall_get_iff.symm

theorem wellFormed_zero : zero.WellFormed := by
  intro c
  cases c <;> exact Decimal.isBalance_zero

@[simp] theorem get_set_self (b : Balances) (c : Currency) (d : Decimal) : (b.set c d).get c = d := by
  rw [get_set, if_pos rfl]

theorem get_set_of_ne (b : Balances) {c c' : Currency} (d : Decimal) (h : c' ≠ c) :
    (b.set c d).get c' = b.get c' := by
  rw [get_set, if_neg h]

theorem forall_get_set {p : Decimal -> Prop} {b : Balances} {c : Currency} {d : Decimal}
    (hb : forall c', p (b.get c')) (hd : p d) : forall c', p ((b.set c d).get c') := by
  intro c'
  by_cases h : c' = c
  · rw [h, get_set_self]
    exact hd
  · rw [get_set_of_ne b d h]
    exact hb c'

theorem credit_eq_ok_iff {b b' : Balances} {c : Currency} {amount : Decimal} :
    b.credit c amount = .ok b' <->
      exists sum, (b.get c).add? amount = some sum ∧ sum.InBalanceRange ∧ b' = b.set c sum := by
  unfold credit
  constructor
  · intro h
    split at h
    next sum hsum =>
      split at h
      next hrange =>
        cases h
        exact ⟨sum, hsum, hrange, rfl⟩
      next =>
        cases h
    next =>
      cases h
  · intro h
    rcases h with ⟨sum, hsum, hrange, rfl⟩
    rw [hsum]
    dsimp only
    rw [if_pos hrange]

theorem debit_eq_ok_iff {b b' : Balances} {c : Currency} {amount : Decimal} :
    b.debit c amount = .ok b' <->
      exists rest, (b.get c).sub? amount = some rest ∧ b' = b.set c rest := by
  unfold debit
  constructor
  · intro h
    split at h
    next rest hrest =>
      cases h
      exact ⟨rest, hrest, rfl⟩
    next =>
      cases h
  · intro h
    rcases h with ⟨rest, hrest, rfl⟩
    rw [hrest]

/-!
## Exact changes of one balance
-/

section Exact

variable {b : Balances} {c : Currency} {amount r : Decimal} (hb : b.WellFormed)
  (hplaces : amount.scale ≤ Decimal.balancePlaces)

include hb hplaces

theorem wellFormed_set_of_add? (hamount : 0 ≤ amount.value) (h : (b.get c).add? amount = some r)
    (hr : r.InBalanceRange) :
    (b.set c r).WellFormed ∧ forall c', ((b.set c r).get c').value =
      (b.get c').value + if c' = c then amount.value else 0 := by
  constructor
  · exact forall_get_set hb (Decimal.isBalance_of_add? (hb c) hamount hplaces h hr)
  · intro c'
    by_cases hc : c' = c
    · rw [hc, get_set_self, if_pos rfl]
      exact Decimal.value_of_add? (hb c) hamount hplaces h hr
    · rw [get_set_of_ne b r hc, if_neg hc, add_zero]

theorem wellFormed_set_of_sub? (hamount : 0 ≤ amount.value) (hcovered : amount ≤ b.get c)
    (h : (b.get c).sub? amount = some r) :
    (b.set c r).WellFormed ∧ forall c', ((b.set c r).get c').value =
      (b.get c').value + if c' = c then -amount.value else 0 := by
  rcases Decimal.sub?_of_covered (hb c) hamount hplaces (Decimal.value_le_value_iff.mpr hcovered)
    with ⟨rest, hrest, hbalance, hvalue⟩
  rw [h] at hrest
  cases hrest
  constructor
  · exact forall_get_set hb hbalance
  · intro c'
    by_cases hc : c' = c
    · rw [hc, get_set_self, if_pos rfl, hvalue, sub_eq_add_neg]
    · rw [get_set_of_ne b r hc, if_neg hc, add_zero]

end Exact

end Balances

namespace Mutation

/-!
## The ways to succeed
-/

inductive Booked (b : Balances) : Mutation -> Balances -> Prop where
  | deposit {c : Currency} {amount sum : Decimal} :
      (b.get c).add? amount = some sum ->
      sum.InBalanceRange ->
      Booked b (.deposit c amount) (b.set c sum)
  | withdraw {c : Currency} {amount rest : Decimal} :
      amount ≤ b.get c ->
      (b.get c).sub? amount = some rest ->
      Booked b (.withdraw c amount) (b.set c rest)
  | exchange {source target : Currency} {debit credit rest sum : Decimal} :
      source ≠ target ->
      debit ≤ b.get source ->
      (b.get source).sub? debit = some rest ->
      (b.get target).add? credit = some sum ->
      sum.InBalanceRange ->
      Booked b (.exchange source target debit credit) ((b.set source rest).set target sum)

theorem checkFunds_eq_ok_iff {m : Mutation} {b : Balances} {u : Unit} :
    m.checkFunds b = .ok u <-> forall c x, m.debitLeg? = some (c, x) -> x ≤ b.get c := by
  unfold checkFunds
  cases m.debitLeg? with
  | none =>
      simp
  | some leg =>
      rcases leg with ⟨c, x⟩
      dsimp only
      constructor
      · intro h c' x' hleg
        cases hleg
        split at h
        next =>
          cases h
        next hcovered =>
          exact Decimal.not_lt_iff_le.mp hcovered
      · intro h
        rw [if_neg (Decimal.not_lt_iff_le.mpr (h c x rfl))]

theorem apply_eq_ok_iff {m : Mutation} {b b' : Balances} :
    m.apply b = .ok b' <->
      m.validate = .ok () ∧ m.checkFunds b = .ok () ∧ m.book b = .ok b' := by
  constructor
  · intro h
    rcases bind_eq_ok_iff.mp h with ⟨_valid, hvalid, h⟩
    rcases bind_eq_ok_iff.mp h with ⟨_funds, hfunds, hbook⟩
    exact ⟨hvalid, hfunds, hbook⟩
  · intro h
    rcases h with ⟨hvalid, hfunds, hbook⟩
    exact bind_eq_ok_iff.mpr ⟨(), hvalid, bind_eq_ok_iff.mpr ⟨(), hfunds, hbook⟩⟩

theorem ne_of_validate_exchange {source target : Currency} {debit credit : Decimal}
    (h : (exchange source target debit credit).validate = .ok ()) : source ≠ target := by
  intro heq
  rw [validate, if_pos heq] at h
  cases h

theorem checkRange_eq_ok_iff {m : Mutation} :
    m.checkRange = .ok () <-> forall leg, leg ∈ m.legs -> leg.2.InBalanceRange := by
  unfold checkRange
  constructor
  · intro h leg hleg
    split at h
    next =>
      cases h
    next hnone =>
      simpa using List.find?_eq_none.mp hnone leg hleg
  · intro h
    have hnone : m.legs.find? (fun leg => ¬ leg.2.InBalanceRange) = none := by
      rw [List.find?_eq_none]
      intro leg hleg
      simpa using h leg hleg
    rw [hnone]

theorem booked_of_apply {m : Mutation} {b b' : Balances} (h : m.apply b = .ok b') :
    Booked b m b' := by
  rcases apply_eq_ok_iff.mp h with ⟨hvalid, hfunds, hbook⟩
  rw [checkFunds_eq_ok_iff] at hfunds
  cases m with
  | deposit c amount =>
      rcases Balances.credit_eq_ok_iff.mp hbook with ⟨sum, hsum, hrange, rfl⟩
      exact Booked.deposit hsum hrange
  | withdraw c amount =>
      rcases Balances.debit_eq_ok_iff.mp hbook with ⟨rest, hrest, rfl⟩
      exact Booked.withdraw (hfunds c amount rfl) hrest
  | exchange source target debit credit =>
      have hne := ne_of_validate_exchange hvalid
      rcases bind_eq_ok_iff.mp hbook with ⟨b₁, hdebit, hcredit⟩
      rcases Balances.debit_eq_ok_iff.mp hdebit with ⟨rest, hrest, rfl⟩
      rcases Balances.credit_eq_ok_iff.mp hcredit with ⟨sum, hsum, hrange, rfl⟩
      rw [Balances.get_set_of_ne b rest hne.symm] at hsum
      exact Booked.exchange hne (hfunds source debit rfl) hrest hsum hrange

theorem apply_of_booked {m : Mutation} {b b' : Balances} (h : Booked b m b') :
    m.apply b = .ok b' := by
  rw [apply_eq_ok_iff, checkFunds_eq_ok_iff]
  cases h with
  | deposit hsum hrange =>
      refine ⟨rfl, ?_, Balances.credit_eq_ok_iff.mpr ⟨_, hsum, hrange, rfl⟩⟩
      intro c x hleg
      cases hleg
  | withdraw hcovered hrest =>
      refine ⟨rfl, ?_, Balances.debit_eq_ok_iff.mpr ⟨_, hrest, rfl⟩⟩
      intro c x hleg
      cases hleg
      exact hcovered
  | exchange hne hcovered hrest hsum hrange =>
      rename_i source target debit credit rest sum
      have hdebit : b.debit source debit = .ok (b.set source rest) :=
        Balances.debit_eq_ok_iff.mpr ⟨rest, hrest, rfl⟩
      rw [← Balances.get_set_of_ne b rest hne.symm] at hsum
      refine ⟨?_, ?_, bind_eq_ok_iff.mpr ⟨_, hdebit, ?_⟩⟩
      · rw [validate, if_neg hne]
      · intro c x hleg
        cases hleg
        exact hcovered
      · exact Balances.credit_eq_ok_iff.mpr ⟨sum, hsum, hrange, rfl⟩

/-!
## What is kept and what is changed
-/

/-- What the mutation adds to a balance, as a number. What is taken counts as negative. -/
def change (m : Mutation) (c : Currency) : ℚ :=
  match m with
  | deposit currency amount => if c = currency then amount.value else 0
  | withdraw currency amount => if c = currency then -amount.value else 0
  | exchange source target debit credit =>
      (if c = source then -debit.value else 0) + (if c = target then credit.value else 0)

theorem change_exchange_source {source target : Currency} (h : source ≠ target)
    (debit credit : Decimal) : (exchange source target debit credit).change source = -debit.value := by
  rw [change, if_pos rfl, if_neg h, add_zero]

theorem change_exchange_target {source target : Currency} (h : source ≠ target)
    (debit credit : Decimal) : (exchange source target debit credit).change target = credit.value := by
  rw [change, if_pos rfl, if_neg h.symm, zero_add]

def IsPositive : Mutation -> Prop
  | deposit _ amount => 0 < amount.value
  | withdraw _ amount => 0 < amount.value
  | exchange _ _ debit credit => 0 < debit.value ∧ 0 ≤ credit.value

theorem isPositive_exchange_iff {source target : Currency} {debit credit : Decimal} :
    (exchange source target debit credit).IsPositive <->
      Decimal.zero < debit ∧ Decimal.zero ≤ credit := by
  rw [← Decimal.value_pos_iff, ← Decimal.zero_le_value_iff]
  exact Iff.rfl

instance : DecidablePred IsPositive
  | deposit _ amount => decidable_of_iff (Decimal.zero < amount) Decimal.value_pos_iff.symm
  | withdraw _ amount => decidable_of_iff (Decimal.zero < amount) Decimal.value_pos_iff.symm
  | exchange _ _ _ _ => decidable_of_iff _ isPositive_exchange_iff.symm

def FitsPlaces (m : Mutation) : Prop :=
  forall x, x ∈ m.amounts -> x.scale ≤ Decimal.balancePlaces

instance : DecidablePred FitsPlaces :=
  fun m => inferInstanceAs (Decidable (forall x, x ∈ m.amounts -> x.scale ≤ Decimal.balancePlaces))

def Covered (m : Mutation) (row : Currency -> ℚ) : Prop :=
  forall c x, m.debitLeg? = some (c, x) -> x.value ≤ row c

theorem withinBounds_of_booked {m : Mutation} {b b' : Balances} (h : Booked b m b')
    (hm : m.IsPositive) (hb : b.WithinBounds) : b'.WithinBounds := by
  cases h with
  | deposit hsum hrange =>
      exact Balances.forall_get_set hb
        (Decimal.withinBounds_of_add? (hb _) (le_of_lt hm) hsum hrange)
  | withdraw hcovered hrest =>
      exact Balances.forall_get_set hb
        (Decimal.withinBounds_of_sub? (hb _) (le_of_lt hm)
          (Decimal.value_le_value_iff.mpr hcovered) hrest)
  | exchange hne hcovered hrest hsum hrange =>
      apply Balances.forall_get_set
      · exact Balances.forall_get_set hb
          (Decimal.withinBounds_of_sub? (hb _) (le_of_lt hm.left)
            (Decimal.value_le_value_iff.mpr hcovered) hrest)
      · exact Decimal.withinBounds_of_add? (hb _) hm.right hsum hrange

theorem get_of_booked {m : Mutation} {b b' : Balances} (h : Booked b m b') {c : Currency}
    (hc : c ∉ m.legs.map Prod.fst) : b'.get c = b.get c := by
  cases h with
  | deposit hsum hrange =>
      exact Balances.get_set_of_ne b _ (by simpa [legs] using hc)
  | withdraw hcovered hrest =>
      exact Balances.get_set_of_ne b _ (by simpa [legs] using hc)
  | exchange hne hcovered hrest hsum hrange =>
      rename_i source target debit credit rest sum
      have hlegs : ¬ (c = source ∨ c = target) := by simpa [legs] using hc
      rw [Balances.get_set_of_ne _ _ (fun ht => hlegs (Or.inr ht)),
        Balances.get_set_of_ne _ _ (fun hs => hlegs (Or.inl hs))]

section Exact

variable {m : Mutation} {b b' : Balances} (hm : m.IsPositive) (hplaces : m.FitsPlaces)
  (hb : b.WellFormed)

include hm hplaces hb

/-- A mutation that succeeds is carried out without any rounding. -/
theorem wellFormed_of_booked (h : Booked b m b') :
    b'.WellFormed ∧ forall c, (b'.get c).value = (b.get c).value + m.change c := by
  cases h with
  | deposit hsum hrange =>
      rename_i currency amount sum
      have hscale := hplaces amount (by simp [amounts, legs])
      exact Balances.wellFormed_set_of_add? hb hscale (le_of_lt hm) hsum hrange
  | withdraw hcovered hrest =>
      rename_i currency amount rest
      have hscale := hplaces amount (by simp [amounts, legs])
      exact Balances.wellFormed_set_of_sub? hb hscale (le_of_lt hm) hcovered hrest
  | exchange hne hcovered hrest hsum hrange =>
      rename_i source target debit credit rest sum
      have hdebit := hplaces debit (by simp [amounts, legs])
      have hcredit := hplaces credit (by simp [amounts, legs])
      rcases Balances.wellFormed_set_of_sub? hb hdebit (le_of_lt hm.left) hcovered hrest with
        ⟨htaken, hrestValue⟩
      rw [← Balances.get_set_of_ne b rest hne.symm] at hsum
      rcases Balances.wellFormed_set_of_add? htaken hcredit hm.right hsum hrange with
        ⟨hgiven, hsumValue⟩
      refine ⟨hgiven, ?_⟩
      intro c
      rw [hsumValue, hrestValue, change, add_assoc]

omit hplaces in
theorem inBalanceRange_of_limits (hcovered : m.Covered fun c => (b.get c).value)
    (hlimit : forall c, (b.get c).value + m.change c < 10 ^ 18) (hvalid : m.validate = .ok ()) :
    forall leg, leg ∈ m.legs -> leg.2.InBalanceRange := by
  intro leg hleg
  rw [Decimal.inBalanceRange_iff]
  cases m with
  | deposit c amount =>
      rw [List.mem_singleton.mp hleg, abs_of_pos hm]
      have hlt := hlimit c
      rw [change, if_pos rfl] at hlt
      linarith [(hb c).left.left]
  | withdraw c amount =>
      rw [List.mem_singleton.mp hleg, abs_of_pos hm]
      exact lt_of_le_of_lt (hcovered c amount rfl) (hb c).left.right
  | exchange source target debit credit =>
      have hne := ne_of_validate_exchange hvalid
      rcases List.mem_pair.mp hleg with rfl | rfl
      · rw [abs_of_pos hm.left]
        exact lt_of_le_of_lt (hcovered source debit rfl) (hb source).left.right
      · rw [abs_of_nonneg hm.right]
        have hlt := hlimit target
        rw [change_exchange_target hne] at hlt
        linarith [(hb target).left.left]

theorem exists_booked_iff :
    (exists b', Booked b m b') <->
      m.validate = .ok () ∧ m.Covered (fun c => (b.get c).value) ∧
        forall c, (b.get c).value + m.change c < 10 ^ 18 := by
  constructor
  · intro h
    rcases h with ⟨b', hbooked⟩
    rcases apply_eq_ok_iff.mp (apply_of_booked hbooked) with ⟨hvalid, hfunds, _hbook⟩
    rcases wellFormed_of_booked hm hplaces hb hbooked with ⟨hb', hvalue⟩
    refine ⟨hvalid, ?_, ?_⟩
    · intro c x hleg
      exact Decimal.value_le_value_iff.mpr (checkFunds_eq_ok_iff.mp hfunds c x hleg)
    · intro c
      rw [← hvalue]
      exact (hb' c).left.right
  · intro h
    rcases h with ⟨hvalid, hcovered, hlimit⟩
    cases m with
    | deposit c amount =>
        have hlt := hlimit c
        rw [change, if_pos rfl] at hlt
        have hscale := hplaces amount (by simp [amounts, legs])
        rcases Decimal.add?_of_lt_limit (hb c) (le_of_lt hm) hscale hlt with
          ⟨sum, hsum, hrange, _hvalue⟩
        exact ⟨_, Booked.deposit hsum hrange⟩
    | withdraw c amount =>
        have hle := hcovered c amount rfl
        have hscale := hplaces amount (by simp [amounts, legs])
        rcases Decimal.sub?_of_covered (hb c) (le_of_lt hm) hscale hle with
          ⟨rest, hrest, _hbalance, _hvalue⟩
        exact ⟨_, Booked.withdraw (Decimal.value_le_value_iff.mp hle) hrest⟩
    | exchange source target debit credit =>
        have hne := ne_of_validate_exchange hvalid
        have hle := hcovered source debit rfl
        have hlt := hlimit target
        rw [change_exchange_target hne] at hlt
        have hdebit := hplaces debit (by simp [amounts, legs])
        have hcredit := hplaces credit (by simp [amounts, legs])
        rcases Decimal.sub?_of_covered (hb source) (le_of_lt hm.left) hdebit hle with
          ⟨rest, hrest, _hbalance, _hvalue⟩
        rcases Decimal.add?_of_lt_limit (hb target) hm.right hcredit hlt with
          ⟨sum, hsum, hrange, _hvalue⟩
        exact ⟨_, Booked.exchange hne (Decimal.value_le_value_iff.mp hle) hrest hsum hrange⟩

end Exact

end Mutation

end CurrencyWallet
