import CurrencyWallet.Proofs.Ledger.Competition
import CurrencyWallet.Proofs.Simulation.Enrolment
import CurrencyWallet.Proofs.Simulation.Verification
import CurrencyWallet.Simulation.Rates

/-!
# The contention

All tasks withdraw from the first wallet. In whatever order they take their turns, as many
withdrawals succeed as its balance covers, and nothing else changes, so the check at the end
finds what it expects.
-/

namespace CurrencyWallet

/-!
## One withdrawal
-/

namespace Desk

theorem perform_withdraw (d : Desk) (user : UserId) (c : Currency) {amount : Decimal}
    (hpos : 0 < amount.value) :
    d.perform user (.withdraw c amount) =
      (((d.ledger.apply user (.withdraw c amount)).1.mapError .ledger).map (fun _ => ()),
        { d with ledger := (d.ledger.apply user (.withdraw c amount)).2 }) := by
  rw [perform, withdraw, allowedCurrency_code hpos]
  rfl

end Desk

namespace Simulation

def affordable (x : Decimal) (operations : Nat) : Nat :=
  min operations ⌊x.value / 10⌋₊

/-- The wallets are as they were, but for the dollars of one, which withdrawals have drained. -/
structure Contended (user : UserId) (ids : List UserId) (x : Decimal) (d : Desk)
    (n : Outcome -> Nat) : Prop where
  failed_eq : n .failed = 0
  others : forall id, id ≠ user -> d.ledger.wallets.get? id =
    if id ∈ ids then some (.uniform x.opening) else none
  wallet : exists usd : Decimal,
    d.ledger.wallets.get? user = some ((Balances.uniform x.opening).set .usd usd) ∧
      usd.WithinBounds ∧ Drained x.value 10 (n .success) (n .rejected) usd.value

section Contended

variable {user : UserId} {ids : List UserId} {x : Decimal} {d : Desk} {n : Outcome -> Nat}

theorem contended_start {scenario : Scenario} {quotes : Quotes} {s : Simulation}
    (h : Ready scenario quotes ids x s) (hx : x.WithinBounds) (huser : user ∈ ids) :
    Contended user ids x s.desk (fun _o => 0) where
  failed_eq := rfl
  others := fun id _hne => h.wallet id
  wallet := by
    refine ⟨x.opening, ?_, ?_, ?_⟩
    · rw [h.wallet user, if_pos huser]
      rfl
    · rw [Decimal.WithinBounds, Decimal.value_opening]
      exact hx
    · rw [Decimal.value_opening]
      exact drained_start hx.left

theorem Contended.withdraw (h : Contended user ids x d n) :
    Contended user ids x (d.perform user (.withdraw .usd Scenario.contentionAmount)).2
      (tick n (.ofResult (d.perform user (.withdraw .usd Scenario.contentionAmount)).1)) := by
  have hpos : 0 < Scenario.contentionAmount.value := by
    rw [value_contentionAmount]
    norm_num
  rcases h.wallet with ⟨usd, hget, hbounds, hdrained⟩
  rw [← value_contentionAmount] at hdrained
  rw [d.perform_withdraw user .usd hpos]
  -- A withdrawal that is not covered changes nothing, so none after it is covered either.
  rcases le_or_gt Scenario.contentionAmount.value usd.value with hcovered | hlt
  · rcases Ledger.apply_withdraw_of_covered (c := .usd) hget hbounds hpos (by decide) hcovered with
      ⟨rest, hrest, hvalue, happly⟩
    have hfailed : tick n .success .failed = 0 := (tick_of_ne n (by decide)).trans h.failed_eq
    rw [happly]
    refine ⟨hfailed, ?_, rest, ?_, hrest, ?_⟩
    · intro id hne
      exact (d.ledger.get?_openWallet_of_ne user _ hne).trans (h.others id hne)
    · exact d.ledger.get?_openWallet_self user _
    · change Drained x.value 10 (tick n .success .success) (tick n .success .rejected) rest.value
      rw [tick_self, tick_of_ne n (by decide), hvalue, ← value_contentionAmount]
      exact hdrained.pay hcovered
  · have hfailed : tick n .rejected .failed = 0 := (tick_of_ne n (by decide)).trans h.failed_eq
    rw [Ledger.apply_withdraw_of_uncovered (c := .usd) hget hlt]
    refine ⟨hfailed, h.others, usd, hget, hbounds, ?_⟩
    change Drained x.value 10 (tick n .rejected .success) (tick n .rejected .rejected) usd.value
    rw [tick_self, tick_of_ne n (by decide), ← value_contentionAmount]
    exact hdrained.refuse hlt

theorem kept_contended (σ : Type) [WordSource σ] (rest : List UserId) :
    Kept σ (fun _provider => True) .contention (user :: rest) (Contended user ids x) where
  turn := by
    intro d n source source' user' operation hturn h
    cases hturn
    exact h.withdraw
  pause := fun _d _n _milliseconds h => ⟨h.failed_eq, h.others, h.wallet⟩
  takeover := fun _d _n _provider _hprovider h => ⟨h.failed_eq, h.others, h.wallet⟩

end Contended

/-!
## The end of the contention
-/

/-- What is to be found after the contention: as many withdrawals have succeeded as the balance
covers, the first wallet has lost just that, no balance has changed otherwise, and the check at the
end succeeds. -/
structure Reconciled (ids : List UserId) (x : Decimal) (operations : Nat) (s : Simulation) :
    Prop where
  total_eq : s.metrics.total = operations
  successful_eq : s.metrics.successful = affordable x operations
  rejected_eq : s.metrics.rejected = operations - affordable x operations
  failed_eq : s.metrics.failed = 0
  wallets_eq : s.wallets = ids
  balances : forall id, id ∈ ids -> exists b, s.desk.balances id = .ok b ∧
    forall c, (b.get c).value =
      if ids.head? = some id ∧ c = .usd then x.value - 10 * affordable x operations else x.value
  verified : s.verify = .ok ()

section Reconciled

variable {user : UserId} {ids rest : List UserId} {x : Decimal} {operations : Nat}
  {start s : Simulation}

theorem Contended.exists_balances {d : Desk} {n : Outcome -> Nat} (h : Contended user ids x d n)
    (hx : x.WithinBounds) {id : UserId} (hid : id ∈ ids) :
    exists b, d.ledger.wallets.get? id = some b ∧ b.WithinBounds ∧
      forall c, (b.get c).value =
        if id = user ∧ c = .usd then x.value - 10 * n .success else x.value := by
  have hopening : x.opening.WithinBounds := by
    rw [Decimal.WithinBounds, Decimal.value_opening]
    exact hx
  have huniform : (Balances.uniform x.opening).WithinBounds := by
    intro c
    rw [Balances.get_uniform]
    exact hopening
  by_cases heq : id = user
  · rcases h.wallet with ⟨usd, hget, hbounds, hdrained⟩
    refine ⟨_, by rw [heq, hget], Balances.forall_get_set huniform hbounds, ?_⟩
    intro c
    by_cases hc : c = .usd
    · rw [if_pos ⟨heq, hc⟩, hc, Balances.get_set_self]
      exact hdrained.left_eq
    · rw [if_neg (fun h => hc h.right), Balances.get_set_of_ne _ usd hc, Balances.get_uniform,
        Decimal.value_opening]
  · refine ⟨_, by rw [h.others id heq, if_pos hid], huniform, ?_⟩
    intro c
    rw [if_neg (fun h => heq h.left), Balances.get_uniform, Decimal.value_opening]

theorem successful_of_ended (h : Ended start operations (Contended user ids x) s) :
    s.metrics.successful = affordable x operations ∧
      s.metrics.rejected = operations - affordable x operations := by
  rcases h.holds.wallet with ⟨usd, _hget, _hbounds, hdrained⟩
  have hpaid := hdrained.paid_eq (by norm_num)
  have hall := h.inAll_eq
  rw [inAll, h.holds.failed_eq, Nat.add_zero] at hall
  rw [hall] at hpaid
  have hsuccessful : s.metrics.successful = affordable x operations := hpaid
  have hsum : s.metrics.successful + s.metrics.rejected = operations := hall
  constructor
  · exact hsuccessful
  · omega

theorem verify_of_ended (h : Ended start operations (Contended user (user :: rest) x) s)
    (hx : x.WithinBounds) (hwallets : start.wallets = user :: rest)
    (hbalance : start.initialBalance = x) : s.verify = .ok () := by
  rw [verify_eq_ok_iff, h.wallets_eq, hwallets]
  constructor
  · intro id hid
    rcases h.holds.exists_balances hx hid with ⟨b, hget, hbounds, _hvalue⟩
    exact checkWallet_eq_ok_iff.mpr ⟨b, hget, Balances.nonNegative_of_withinBounds hbounds⟩
  · intro _hscenario first hfirst
    cases hfirst
    rcases h.holds.exists_balances hx List.mem_cons_self with ⟨b, hget, hbounds, hvalue⟩
    have husd := hvalue .usd
    rw [if_pos ⟨rfl, rfl⟩] at husd
    have hinitial : s.initialBalance = x := h.initialBalance_eq.trans hbalance
    have hcovered : 10 * s.metrics.successful ≤ x.value := by
      have hnonneg := (hbounds .usd).left
      rw [husd] at hnonneg
      exact sub_nonneg.mp hnonneg
    rw [← hinitial] at hx hcovered husd
    rcases expectedBalance?_of_covered hx hcovered with ⟨expected, hexpected, hexact⟩
    exact checkContention_eq_ok_iff.mpr
      ⟨b, expected, hget, hexpected, husd.trans hexact.symm⟩

theorem reconciled_of_ended (h : Ended start operations (Contended user (user :: rest) x) s)
    (hx : x.WithinBounds) (hwallets : start.wallets = user :: rest)
    (hbalance : start.initialBalance = x) : Reconciled (user :: rest) x operations s where
  total_eq := h.total_eq
  successful_eq := (successful_of_ended h).left
  rejected_eq := (successful_of_ended h).right
  failed_eq := h.holds.failed_eq
  wallets_eq := h.wallets_eq.trans hwallets
  balances := by
    intro id hid
    rcases h.holds.exists_balances hx hid with ⟨b, hget, _hbounds, hvalue⟩
    refine ⟨b, Desk.balances_eq_ok_iff.mpr hget, ?_⟩
    intro c
    have hfirst : (id = user ∧ c = .usd) <-> (user :: rest).head? = some id ∧ c = .usd := by
      rw [List.head?_cons, Option.some.injEq, eq_comm (a := id)]
    rw [hvalue c, ← (successful_of_ended h).left]
    exact if_congr hfirst rfl rfl
  verified := verify_of_ended h hx hwallets hbalance

end Reconciled

theorem drawn_contention {σ : Type} [WordSource σ] (sources : Nat -> σ)
    (wallets task : Nat) (shares : List Nat) :
    Drawn sources .contention wallets task shares := by
  have hall : forall (source : σ) n,
      (Scenario.contention.nextOperations? wallets source n).isSome := by
    intro source n
    induction n with
    | zero =>
        rfl
    | succ n ih =>
        rw [Scenario.nextOperations?, Scenario.nextOperation?]
        rcases Option.isSome_iff_exists.mp ih with ⟨rest, hrest⟩
        simp [hrest]
  intro i share _hshare
  exact hall _ share

/-- The contention always reconciles: with any number of users, operations and tasks, with any
balance to begin with, and in whatever order the tasks take their turns. -/
theorem contention_reconciles {σ : Type} [WordSource σ] (policy : CachePolicy)
    (provider : Provider) (ids : List UserId) (hids : ids ≠ []) (x : Decimal)
    (hx : x.WithinBounds) (run : UserId) (sources : Nat -> σ) (operations concurrency : Nat) :
    exists s, (start .contention (Desk.start .empty policy provider)).populate ids x run =
        (.ok (), s) ∧
      (exists s', s.run sources operations concurrency = (.ok (), s') ∧
        Reconciled ids x operations s') ∧
      forall s', Course (fun _provider => True) sources s operations concurrency s' ->
        Reconciled ids x operations s' := by
  cases ids with
  | nil =>
      exact absurd rfl hids
  | cons user rest =>
      rcases exists_simulation .contention policy provider hids hx run
        (drawn_contention sources _ 0 (shares operations concurrency)) (kept_contended σ rest)
        (fun _s hready => contended_start hready hx List.mem_cons_self) with
        ⟨s, hpopulate, hready, ⟨s', hrun, hended⟩, hall⟩
      have hwallets := hready.wallets_eq
      have hbalance := hready.initialBalance_eq
      refine ⟨s, hpopulate, ⟨s', hrun, reconciled_of_ended hended hx hwallets hbalance⟩, ?_⟩
      intro s'' hcourse
      exact reconciled_of_ended (hall s'' hcourse) hx hwallets hbalance

theorem contention_reconciles_three_of_seven :
    let x : Decimal := ⟨false, 35123, 3, by decide, by decide⟩
    let ids := [UserId.serial 0, UserId.serial 1]
    let sources : Nat -> List UInt32 := fun _task => []
    (ids ≠ [] ∧ x.WithinBounds) ∧
      exists s s', (start .contention (Desk.start .empty {} ListedRates.fixed.provider)).populate
          ids x = (.ok (), s) ∧
        s.run sources 7 3 = (.ok (), s') ∧ s'.metrics.successful = 3 ∧ s'.metrics.rejected = 4 ∧
        (exists b, s'.desk.balances (.serial 0) = .ok b ∧ b.usd.value = 5123 / 1000) ∧
        s'.verify = .ok () := by
  intro x ids sources
  have hids : ids ≠ [] := List.cons_ne_nil _ _
  have hx : x.WithinBounds := by decide
  have hvalue : x.value = 35123 / 1000 := by
    norm_num [x, Decimal.value, Decimal.coefficient]
  have hcovered : affordable x 7 = 3 := by
    rw [affordable, hvalue]
    have hfloor : ⌊(35123 / 1000 : ℚ) / 10⌋₊ = 3 := by
      rw [Nat.floor_eq_iff (by norm_num)]
      norm_num
    rw [hfloor]
    rfl
  rcases contention_reconciles {} ListedRates.fixed.provider ids hids x hx default sources 7 3 with
    ⟨s, hpopulate, ⟨s', hrun, h⟩, _hall⟩
  rcases h.balances (.serial 0) List.mem_cons_self with ⟨b, hb, hleft⟩
  have hsuccessful := h.successful_eq
  have hrejected := h.rejected_eq
  have husd := hleft .usd
  rw [hcovered] at hsuccessful hrejected husd
  rw [if_pos ⟨rfl, rfl⟩, hvalue] at husd
  refine ⟨⟨hids, hx⟩, s, s', hpopulate, hrun, hsuccessful, hrejected, ⟨b, hb, ?_⟩, h.verified⟩
  norm_num at husd
  exact husd

end Simulation

end CurrencyWallet
