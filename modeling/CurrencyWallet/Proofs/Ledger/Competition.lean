import CurrencyWallet.Proofs.Ledger.Refusal
import Mathlib.Algebra.Order.Floor.Ring
import Mathlib.Data.Rat.Floor

/-!
# Withdrawals that compete

Withdrawals of one amount from one balance compete for what is there. In whatever order they
come, and whatever happens to other wallets and other balances between them, as many succeed as
the balance covers, and the balance is drained by exactly these. `Drained` is what they keep
between them.
-/

namespace CurrencyWallet

/-!
## Draining a balance
-/

/-- What withdrawals of one amount have left of a balance, when so many have been paid and so many
have been refused. -/
structure Drained (start amount : ℚ) (paid refused : Nat) (left : ℚ) : Prop where
  left_eq : left = start - amount * paid
  nonneg : 0 ≤ left
  lt_of_refused : refused ≠ 0 -> left < amount

section Drained

variable {start amount left : ℚ} {paid refused : Nat}

theorem drained_start (h : 0 ≤ start) : Drained start amount 0 0 start where
  left_eq := by simp
  nonneg := h
  lt_of_refused := fun hrefused => absurd rfl hrefused

theorem Drained.pay (h : Drained start amount paid refused left) (hcovered : amount ≤ left) :
    Drained start amount (paid + 1) refused (left - amount) where
  left_eq := by
    rw [h.left_eq]
    push_cast
    ring
  nonneg := sub_nonneg.mpr hcovered
  lt_of_refused := fun hrefused => absurd hcovered (not_le.mpr (h.lt_of_refused hrefused))

theorem Drained.refuse (h : Drained start amount paid refused left) (hlt : left < amount) :
    Drained start amount paid (refused + 1) left where
  left_eq := h.left_eq
  nonneg := h.nonneg
  lt_of_refused := fun _hrefused => hlt

/-- Nothing is paid that is not there, and nothing is refused that is. -/
theorem Drained.paid_eq (h : Drained start amount paid refused left) (hpos : 0 < amount) :
    paid = min (paid + refused) ⌊start / amount⌋₊ := by
  have hstart : start = left + amount * paid := by
    rw [h.left_eq]
    ring
  have hcovered : paid ≤ ⌊start / amount⌋₊ := by
    apply Nat.le_floor
    rw [le_div_iff₀ hpos, hstart]
    linarith [h.nonneg]
  -- As soon as one is refused, less than the amount is left, so no more could have been paid.
  by_cases hrefused : refused = 0
  · rw [hrefused, Nat.add_zero, min_eq_left hcovered]
  · have hshort : ⌊start / amount⌋₊ < paid + 1 := by
      apply (Nat.floor_lt' (Nat.succ_ne_zero paid)).mpr
      rw [div_lt_iff₀ hpos, hstart]
      push_cast
      linarith [h.lt_of_refused hrefused]
    omega

end Drained

namespace Ledger

/-!
## One withdrawal
-/

section Withdrawal

variable {l : Ledger} {user : UserId} {b : Balances} {c : Currency} {amount : Decimal}
  (hget : l.wallets.get? user = some b)

include hget

theorem apply_withdraw_of_covered (hb : (b.get c).WithinBounds) (hpos : 0 < amount.value)
    (hplaces : amount.scale ≤ Decimal.balancePlaces) (hcovered : amount.value ≤ (b.get c).value) :
    exists rest, rest.WithinBounds ∧ rest.value = (b.get c).value - amount.value ∧
      l.apply user (.withdraw c amount) = (.ok (b.set c rest), l.openWallet user (b.set c rest)) := by
  rcases Decimal.sub?_of_debit hb (le_of_lt hpos) hplaces hcovered with
    ⟨rest, hrest, hbounds, hvalue⟩
  have hbooked : Mutation.Booked b (.withdraw c amount) (b.set c rest) :=
    Mutation.Booked.withdraw (Decimal.value_le_value_iff.mp hcovered) hrest
  refine ⟨rest, hbounds, hvalue, ?_⟩
  exact apply_of_booked ⟨b, hget, hbooked⟩

theorem apply_withdraw_of_uncovered (hlt : (b.get c).value < amount.value) :
    l.apply user (.withdraw c amount) = (.error (.insufficientFunds c amount), l) := by
  have houtcome : l.outcome user (.withdraw c amount) = .error (.insufficientFunds c amount) := by
    have hleg : (Mutation.withdraw c amount).debitLeg? = some (c, amount) := rfl
    rw [outcome, balances, hget]
    exact Mutation.apply_of_uncovered rfl hleg hlt
  rw [apply, houtcome]

end Withdrawal

/-!
## Mutations one after the other
-/

def applyAll (l : Ledger) (es : List (UserId × Mutation)) : Ledger :=
  es.foldl (fun l e => (l.apply e.1 e.2).2) l

/-- What comes of those mutations that are this one. -/
def outcomesOf (rival : UserId × Mutation) (l : Ledger) :
    List (UserId × Mutation) -> List (Except LedgerError Balances)
  | [] => []
  | e :: es =>
      let (outcome, l) := l.apply e.1 e.2
      if e = rival then outcome :: l.outcomesOf rival es else l.outcomesOf rival es

/-- A mutation that does not concern a balance: one of another wallet, or a deposit or a
withdrawal in another currency. -/
inductive Bystander (user : UserId) (c : Currency) : UserId × Mutation -> Prop where
  | elsewhere {other : UserId} {m : Mutation} :
      other ≠ user ->
      Bystander user c (other, m)
  | deposit {c' : Currency} {amount : Decimal} :
      c' ≠ c ->
      Bystander user c (user, .deposit c' amount)
  | withdraw {c' : Currency} {amount : Decimal} :
      c' ≠ c ->
      Bystander user c (user, .withdraw c' amount)

theorem get?_apply_of_ne (l : Ledger) {user other : UserId} (hne : other ≠ user) (m : Mutation) :
    (l.apply other m).2.wallets.get? user = l.wallets.get? user := by
  rcases l.apply_cases other m with ⟨e, happly⟩ | ⟨b', _hbooked, happly⟩
  · rw [happly]
  · rw [happly]
    exact get?_openWallet_of_ne l other b' hne.symm

theorem get_apply_of_not_mem {l : Ledger} {user : UserId} {b : Balances} {m : Mutation}
    {c : Currency} (hget : l.wallets.get? user = some b) (hc : c ∉ m.legs.map Prod.fst) :
    exists b', (l.apply user m).2.wallets.get? user = some b' ∧ b'.get c = b.get c := by
  rcases l.apply_cases user m with ⟨e, happly⟩ | ⟨b', hbooked, happly⟩
  · rw [happly]
    exact ⟨b, hget, rfl⟩
  · rw [happly]
    rcases hbooked with ⟨b₀, hget₀, hbooked⟩
    cases hget.symm.trans hget₀
    exact ⟨b', get?_openWallet_self l user b', Mutation.get_of_booked hbooked hc⟩

theorem Bystander.get_apply {l : Ledger} {user : UserId} {b : Balances} {c : Currency}
    {e : UserId × Mutation} (h : Bystander user c e) (hget : l.wallets.get? user = some b) :
    exists b', (l.apply e.1 e.2).2.wallets.get? user = some b' ∧ b'.get c = b.get c := by
  cases h with
  | elsewhere hne =>
      exact ⟨b, (get?_apply_of_ne l hne _).trans hget, rfl⟩
  | deposit hne =>
      exact get_apply_of_not_mem hget (by simpa [Mutation.legs] using hne.symm)
  | withdraw hne =>
      exact get_apply_of_not_mem hget (by simpa [Mutation.legs] using hne.symm)

/-!
## The competition
-/

theorem Bystander.ne_withdraw {user : UserId} {c : Currency} {amount : Decimal}
    {e : UserId × Mutation} (h : Bystander user c e) : e ≠ (user, .withdraw c amount) := by
  intro heq
  cases h with
  | elsewhere hne =>
      exact hne (congrArg Prod.fst heq)
  | deposit _hne =>
      cases heq
  | withdraw hne =>
      cases heq
      exact hne rfl

def PaidOrUncovered (c : Currency) (amount : Decimal) (outcome : Except LedgerError Balances) :
    Prop :=
  outcome.isOk = true ∨ outcome = .error (.insufficientFunds c amount)

def paidIn (outcomes : List (Except LedgerError Balances)) : Nat :=
  outcomes.countP Except.isOk

def refusedIn (outcomes : List (Except LedgerError Balances)) : Nat :=
  outcomes.countP (fun outcome => ¬ outcome.isOk)

theorem length_eq_paidIn_add_refusedIn (outcomes : List (Except LedgerError Balances)) :
    outcomes.length = paidIn outcomes + refusedIn outcomes :=
  List.length_eq_countP_add_countP _

theorem paidIn_cons (outcome : Except LedgerError Balances)
    (outcomes : List (Except LedgerError Balances)) :
    paidIn (outcome :: outcomes) = paidIn [outcome] + paidIn outcomes := by
  rw [← List.singleton_append]
  exact List.countP_append

theorem refusedIn_cons (outcome : Except LedgerError Balances)
    (outcomes : List (Except LedgerError Balances)) :
    refusedIn (outcome :: outcomes) = refusedIn [outcome] + refusedIn outcomes := by
  rw [← List.singleton_append]
  exact List.countP_append

theorem outcomesOf_cons_self (rival : UserId × Mutation) (l : Ledger)
    (es : List (UserId × Mutation)) :
    l.outcomesOf rival (rival :: es) =
      (l.apply rival.1 rival.2).1 :: (l.apply rival.1 rival.2).2.outcomesOf rival es := by
  rw [outcomesOf]
  exact if_pos rfl

theorem outcomesOf_cons_of_ne {rival e : UserId × Mutation} (h : e ≠ rival) (l : Ledger)
    (es : List (UserId × Mutation)) :
    l.outcomesOf rival (e :: es) = (l.apply e.1 e.2).2.outcomesOf rival es := by
  rw [outcomesOf]
  exact if_neg h

section Competition

variable {l : Ledger} {user : UserId} {b : Balances} {c : Currency} {amount : Decimal} {start : ℚ}
  {paid refused : Nat} (hpos : 0 < amount.value) (hplaces : amount.scale ≤ Decimal.balancePlaces)

include hpos hplaces

theorem drained_apply (hget : l.wallets.get? user = some b) (hb : (b.get c).WithinBounds)
    (h : Drained start amount.value paid refused (b.get c).value) :
    PaidOrUncovered c amount (l.apply user (.withdraw c amount)).1 ∧
      exists b', (l.apply user (.withdraw c amount)).2.wallets.get? user = some b' ∧
        (b'.get c).WithinBounds ∧
        Drained start amount.value (paid + paidIn [(l.apply user (.withdraw c amount)).1])
          (refused + refusedIn [(l.apply user (.withdraw c amount)).1]) (b'.get c).value := by
  rcases le_or_gt amount.value (b.get c).value with hcovered | hlt
  · rcases apply_withdraw_of_covered hget hb hpos hplaces hcovered with
      ⟨rest, hbounds, hvalue, happly⟩
    rw [happly]
    refine ⟨Or.inl rfl, b.set c rest, get?_openWallet_self l user _, ?_, ?_⟩
    · rw [Balances.get_set_self]
      exact hbounds
    · rw [Balances.get_set_self, hvalue]
      exact h.pay hcovered
  · rw [apply_withdraw_of_uncovered hget hlt]
    exact ⟨Or.inr rfl, b, hget, hb, h.refuse hlt⟩

theorem drained_applyAll {es : List (UserId × Mutation)} (hget : l.wallets.get? user = some b)
    (hb : (b.get c).WithinBounds)
    (hes : forall e, e ∈ es -> e = (user, .withdraw c amount) ∨ Bystander user c e)
    (h : Drained start amount.value paid refused (b.get c).value) :
    let outcomes := l.outcomesOf (user, .withdraw c amount) es
    outcomes.length = es.count (user, .withdraw c amount) ∧
      (forall outcome, outcome ∈ outcomes -> PaidOrUncovered c amount outcome) ∧
      exists b', (l.applyAll es).wallets.get? user = some b' ∧
        Drained start amount.value (paid + paidIn outcomes) (refused + refusedIn outcomes)
          (b'.get c).value := by
  -- A withdrawal moves the counts and the balance together, and a bystander moves neither.
  induction es generalizing l b paid refused with
  | nil =>
      exact ⟨rfl, fun _outcome hmem => absurd hmem List.not_mem_nil, b, hget, h⟩
  | cons e es ih =>
      have htail : forall e', e' ∈ es -> e' = (user, .withdraw c amount) ∨ Bystander user c e' :=
        fun e' he' => hes e' (List.mem_cons_of_mem e he')
      rcases hes e List.mem_cons_self with rfl | hbystander
      · rcases drained_apply hpos hplaces hget hb h with ⟨hhead, b₁, hget₁, hb₁, h₁⟩
        rcases ih hget₁ hb₁ htail h₁ with ⟨hlength, houtcomes, b', hget', hafter⟩
        rw [outcomesOf_cons_self]
        dsimp only
        rw [paidIn_cons, refusedIn_cons, ← Nat.add_assoc, ← Nat.add_assoc]
        refine ⟨?_, ?_, b', hget', hafter⟩
        · rw [List.length_cons, hlength, List.count_cons_self]
        · intro outcome hmem
          rcases List.mem_cons.mp hmem with rfl | hmem
          · exact hhead
          · exact houtcomes outcome hmem
      · rcases hbystander.get_apply hget with ⟨b₁, hget₁, hsame⟩
        rw [← hsame] at hb h
        rw [outcomesOf_cons_of_ne hbystander.ne_withdraw,
          List.count_cons_of_ne hbystander.ne_withdraw]
        exact ih hget₁ hb htail h

/-- Whoever is served first, and whatever happens besides to other wallets and other balances: as
many of the withdrawals succeed as the balance covers, the others are refused for lack of funds,
and what is left is the balance less what has been paid. -/
theorem competing_withdrawals {es : List (UserId × Mutation)}
    (hget : l.wallets.get? user = some b) (hb : (b.get c).WithinBounds)
    (hes : forall e, e ∈ es -> e = (user, .withdraw c amount) ∨ Bystander user c e) :
    let outcomes := l.outcomesOf (user, .withdraw c amount) es
    let n := es.count (user, .withdraw c amount)
    let k := min n ⌊(b.get c).value / amount.value⌋₊
    outcomes.length = n ∧ paidIn outcomes = k ∧
      (forall outcome, outcome ∈ outcomes -> PaidOrUncovered c amount outcome) ∧
      exists b', (l.applyAll es).wallets.get? user = some b' ∧
        (b'.get c).value = (b.get c).value - amount.value * k := by
  intro outcomes n k
  rcases drained_applyAll hpos hplaces hget hb hes (drained_start hb.left) with
    ⟨hlength, houtcomes, b', hget', hafter⟩
  rw [Nat.zero_add, Nat.zero_add] at hafter
  have hpaid : paidIn outcomes = k := by
    have heq := hafter.paid_eq hpos
    rwa [← length_eq_paidIn_add_refusedIn, hlength] at heq
  refine ⟨hlength, hpaid, houtcomes, b', hget', ?_⟩
  rw [hafter.left_eq]
  exact congrArg (fun paid : Nat => (b.get c).value - amount.value * paid) hpaid

end Competition

theorem competing_withdrawals_of_a_third :
    let third : Decimal := ⟨false, 3350, 2, by decide, by decide⟩
    let b : Balances := ⟨.zero, ⟨false, 1005, 1, by decide, by decide⟩, .zero⟩
    let l := empty.openWallet default b
    let rival : UserId × Mutation := (default, .withdraw .usd third)
    let es := [rival, (default, .withdraw .eur third), rival, (.serial 1, .withdraw .usd third),
      rival, (default, .deposit .rub third), rival]
    let outcomes := l.outcomesOf rival es
    (0 < third.value ∧ third.scale ≤ Decimal.balancePlaces ∧
      l.wallets.get? default = some b ∧ (b.get .usd).WithinBounds ∧
      forall e, e ∈ es -> e = rival ∨ Bystander default .usd e) ∧
      outcomes.length = 4 ∧ paidIn outcomes = 3 ∧
      (forall outcome, outcome ∈ outcomes -> PaidOrUncovered .usd third outcome) ∧
      exists b', (l.applyAll es).wallets.get? default = some b' ∧ (b'.get .usd).value = 0 := by
  intro third b l rival es outcomes
  have hpos : 0 < third.value := Decimal.value_pos_iff.mpr (by decide)
  have hplaces : third.scale ≤ Decimal.balancePlaces := by decide
  have hget : l.wallets.get? default = some b := get?_openWallet_self empty default b
  have hb : (b.get .usd).WithinBounds := by decide
  have hes : forall e, e ∈ es -> e = rival ∨ Bystander default .usd e := by
    intro e he
    simp only [es, List.mem_cons, List.not_mem_nil, or_false] at he
    rcases he with rfl | rfl | rfl | rfl | rfl | rfl | rfl
    · exact Or.inl rfl
    · exact Or.inr (Bystander.withdraw (by decide))
    · exact Or.inl rfl
    · exact Or.inr (Bystander.elsewhere (by decide))
    · exact Or.inl rfl
    · exact Or.inr (Bystander.deposit (by decide))
    · exact Or.inl rfl
  have hcount : es.count rival = 4 := by decide
  have hbalance : (b.get .usd).value = third.value * 3 := by
    norm_num [b, third, Balances.get, Decimal.value, Decimal.coefficient]
  have hratio : (b.get .usd).value / third.value = (3 : Nat) := by
    rw [hbalance, mul_div_cancel_left₀ _ (ne_of_gt hpos)]
    rfl
  have hfloor : min (es.count rival) ⌊(b.get .usd).value / third.value⌋₊ = 3 := by
    rw [hcount, hratio, Nat.floor_natCast]
    rfl
  rcases competing_withdrawals hpos hplaces hget hb hes with
    ⟨hlength, hpaid, houtcomes, b', hget', hleft⟩
  refine ⟨⟨hpos, hplaces, hget, hb, hes⟩, hlength.trans hcount, hpaid.trans hfloor, houtcomes, b',
    hget', ?_⟩
  rw [hleft, hfloor, hbalance]
  exact sub_self _

end Ledger

end CurrencyWallet
