import CurrencyWallet.Proofs.Service.Reliable
import CurrencyWallet.Proofs.Simulation.Enrolment
import CurrencyWallet.Proofs.Simulation.Verification
import CurrencyWallet.Simulation.Rates

/-!
# Random operations

With rates that can always be had, no operation of a simulation fails: what is not carried out is
refused by the rules. No wallet is lost, and none goes below zero, so the check at the end
succeeds, whatever the operations are and in whatever order they come.
-/

namespace CurrencyWallet

theorem Outcome.ofResult_ne_failed {result : Except ServiceError Unit}
    (h : FailsOnly ServiceError.IsRefusal result) : ofResult result ≠ .failed := by
  cases result with
  | ok u =>
      simp [ofResult]
  | error e =>
      rcases h e rfl with hkind | hkind
      · simp [ofResult, hkind]
      · simp [ofResult, hkind]

/-!
## One operation
-/

namespace Desk

section Operation

variable (d : Desk) (user : UserId) (operation : Operation)

theorem failsOnly_perform (h : d.quotes.Reliable) :
    FailsOnly ServiceError.IsRefusal (d.perform user operation).1 ∧
      (d.perform user operation).2.quotes.Reliable := by
  cases operation with
  | deposit c amount =>
      rcases d.failsOnly_allowed user (fun c => .deposit c amount) c.code amount with
        ⟨herror, hquotes⟩
      exact ⟨herror.map _, hquotes.symm ▸ h⟩
  | withdraw c amount =>
      rcases d.failsOnly_allowed user (fun c => .withdraw c amount) c.code amount with
        ⟨herror, hquotes⟩
      exact ⟨herror.map _, hquotes.symm ▸ h⟩
  | exchange source target amount =>
      rcases d.failsOnly_exchange user h source.code target.code amount with ⟨herror, hquotes⟩
      exact ⟨herror.map _, hquotes⟩

theorem perform_entered : d.ledger.Entered user (d.perform user operation).2.ledger := by
  cases operation with
  | deposit c amount =>
      exact d.deposit_entered user c.code amount
  | withdraw c amount =>
      exact d.withdraw_entered user c.code amount
  | exchange source target amount =>
      exact d.exchange_entered user none source.code target.code amount

end Operation

end Desk

namespace Simulation

/-!
## All operations
-/

/-- No operation has failed so far, and none will: rates can be had, every wallet is there, and no
balance is out of bounds. -/
structure Sound (ids : List UserId) (d : Desk) (n : Outcome -> Nat) : Prop where
  failed_eq : n .failed = 0
  quotes : d.quotes.Reliable
  balances : d.ledger.Every Balances.WithinBounds
  wallets : forall id, id ∈ ids -> (d.ledger.wallets.get? id).isSome

section Sound

variable {ids : List UserId} {d : Desk} {n : Outcome -> Nat}

theorem sound_start {scenario : Scenario} {policy : CachePolicy} {provider : Provider}
    (hprovider : provider.QuotesAll) {x : Decimal} (hx : x.WithinBounds) {s : Simulation}
    (h : Ready scenario (Quotes.start policy provider) ids x s) :
    Sound ids s.desk (fun _o => 0) where
  failed_eq := rfl
  quotes := by
    rw [h.quotes_eq]
    exact Quotes.reliable_start policy hprovider
  balances := by
    intro id b hget c
    rw [h.wallet id] at hget
    split at hget
    next =>
      cases hget
      rw [Balances.get_uniform, Decimal.WithinBounds, Decimal.value_opening]
      exact hx
    next =>
      cases hget
  wallets := by
    intro id hid
    rw [h.wallet id, if_pos hid]
    rfl

theorem Sound.perform (h : Sound ids d n) (user : UserId) (operation : Operation) :
    Sound ids (d.perform user operation).2
      (tick n (.ofResult (d.perform user operation).1)) := by
  rcases d.failsOnly_perform user operation h.quotes with ⟨herror, hquotes⟩
  have hfailed : tick n (.ofResult (d.perform user operation).1) .failed = 0 :=
    (tick_of_ne n (Outcome.ofResult_ne_failed herror).symm).trans h.failed_eq
  have hentered := d.perform_entered user operation
  exact ⟨hfailed, hquotes, hentered.every_withinBounds h.balances,
    fun id hid => hentered.isSome_get? (h.wallets id hid)⟩

theorem kept_sound (σ : Type) [WordSource σ] (scenario : Scenario) (ids : List UserId) :
    Kept σ Provider.QuotesAll scenario ids (Sound ids) where
  turn := fun _d _n _source _source' user operation _hturn h => h.perform user operation
  pause := fun d _n _milliseconds h =>
    ⟨h.failed_eq, h.quotes.later (d.quotes.later_clock (Nat.le_add_right _ _)), h.balances,
      h.wallets⟩
  takeover := fun _d _n _provider hprovider h =>
    ⟨h.failed_eq, h.quotes.setProvider hprovider, h.balances, h.wallets⟩

end Sound

/-- What is to be found after random operations: all of them have succeeded or been rejected, none
has failed, and the check at the end succeeds. -/
structure Unfailing (operations : Nat) (s : Simulation) : Prop where
  total_eq : s.metrics.total = operations
  outcomes : s.metrics.successful + s.metrics.rejected = operations
  failed_eq : s.metrics.failed = 0
  verified : s.verify = .ok ()

theorem unfailing_of_ended {ids : List UserId} {operations : Nat} {start s : Simulation}
    (h : Ended start operations (Sound ids) s) (hscenario : start.scenario = .random)
    (hwallets : start.wallets = ids) : Unfailing operations s where
  total_eq := h.total_eq
  outcomes := by
    have hall := h.inAll_eq
    rw [inAll, h.holds.failed_eq, Nat.add_zero] at hall
    exact hall
  failed_eq := h.holds.failed_eq
  verified := by
    rw [verify_eq_ok_iff, h.wallets_eq, h.scenario_eq, hwallets, hscenario]
    constructor
    · intro id hid
      rcases Option.isSome_iff_exists.mp (h.holds.wallets id hid) with ⟨b, hget⟩
      exact checkWallet_eq_ok_iff.mpr
        ⟨b, hget, Balances.nonNegative_of_withinBounds (h.holds.balances id b hget)⟩
    · intro hother
      cases hother

/-- Random operations never fail and never upset the check at the end, with any number of users,
operations and tasks and any balance to begin with, as long as providers quote every pair and the
tasks do not run out of random words. The tasks share the operations evenly, and they may take
their turns in any order. -/
theorem random_never_fails {σ : Type} [WordSource σ] (policy : CachePolicy) (provider : Provider)
    (hprovider : provider.QuotesAll) (ids : List UserId) (hids : ids ≠ []) (x : Decimal)
    (hx : x.WithinBounds) (run : UserId) (sources : Nat -> σ) (operations concurrency : Nat)
    (hdraws : Drawn sources .random ids.length 0 (shares operations concurrency)) :
    ((shares operations concurrency).length = max concurrency 1 ∧
      (shares operations concurrency).sum = operations ∧
      forall share share', share ∈ shares operations concurrency ->
        share' ∈ shares operations concurrency -> share ≤ share' + 1) ∧
      exists s, (start .random (Desk.start .empty policy provider)).populate ids x run =
          (.ok (), s) ∧
        (exists s', s.run sources operations concurrency = (.ok (), s') ∧
          Unfailing operations s') ∧
        forall s', Course Provider.QuotesAll sources s operations concurrency s' ->
          Unfailing operations s' := by
  rcases exists_simulation .random policy provider hids hx run hdraws (kept_sound σ .random ids)
    (fun _s hready => sound_start hprovider hx hready) with
    ⟨s, hpopulate, hready, ⟨s', hrun, hended⟩, hall⟩
  have hscenario := hready.scenario_eq
  have hwallets := hready.wallets_eq
  refine ⟨⟨length_shares operations concurrency, sum_shares operations concurrency, ?_⟩, s,
    hpopulate, ?_, ?_⟩
  · exact fun _share _share' h h' => le_succ_of_mem_shares h h'
  · exact ⟨s', hrun, unfailing_of_ended hended hscenario hwallets⟩
  · exact fun s'' hcourse => unfailing_of_ended (hall s'' hcourse) hscenario hwallets

theorem random_never_fails_two_tasks :
    let x : Decimal := ⟨false, 5, 3, by decide, by decide⟩
    let ids := [UserId.serial 0, UserId.serial 1]
    let sources : Nat -> List UInt32 := fun task =>
      if task = 0 then
        [0, 0, 0, 0, 0, 0, 0, 0, 0, 0, 0, 0, 0, 0xC0000000, 0, 0, 0, 0x60000000]
      else [0, 0x80000000, 0, 0, 0, 0, 0x60000000]
    (ListedRates.fixed.provider.QuotesAll ∧ ids ≠ [] ∧ x.WithinBounds ∧
      Drawn sources .random ids.length 0 (shares 3 2)) ∧
      exists s s', (start .random (Desk.start .empty {} ListedRates.fixed.provider)).populate
          ids x = (.ok (), s) ∧
        s.run sources 3 2 = (.ok (), s') ∧ s'.metrics.total = 3 ∧ s'.metrics.failed = 0 ∧
        s'.verify = .ok () := by
  intro x ids sources
  have hprovider : ListedRates.fixed.provider.QuotesAll := by decide +kernel
  have hids : ids ≠ [] := List.cons_ne_nil _ _
  have hx : x.WithinBounds := by decide
  have hdraws : Drawn sources .random ids.length 0 (shares 3 2) := by
    have hshares : shares 3 2 = [2, 1] := by decide
    rw [hshares]
    intro i share hshare
    rcases i with _ | _ | i
    · cases hshare
      decide +kernel
    · cases hshare
      decide +kernel
    · cases hshare
  rcases random_never_fails {} ListedRates.fixed.provider hprovider ids hids x hx default sources
    3 2 hdraws with ⟨_hshares, s, hpopulate, ⟨s', hrun, h⟩, _hall⟩
  exact ⟨⟨hprovider, hids, hx, hdraws⟩, s, s', hpopulate, hrun, h.total_eq, h.failed_eq, h.verified⟩

end Simulation

end CurrencyWallet
