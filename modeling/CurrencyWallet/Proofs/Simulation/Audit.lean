import CurrencyWallet.Proofs.Simulation.Verification
import CurrencyWallet.Simulation.Rates

/-!
# What the check finds

The books that are checked may hold anything, whatever has been done to them. The check has three
ends: it names the first wallet that is overdrawn, or it reports that the wallet of the contention
does not hold what should be left, or there is nothing to find. Rounding what should be left never
makes the books look right.
-/

namespace CurrencyWallet

namespace Balances

def Overdrawn (b : Balances) : Prop :=
  exists c, (b.get c).value < 0

theorem nonNegative_iff_not_overdrawn {b : Balances} : b.NonNegative <-> ¬ b.Overdrawn := by
  constructor
  · intro h hoverdrawn
    rcases hoverdrawn with ⟨c, hc⟩
    have hall : c ∈ Currency.all := by cases c <;> decide
    exact absurd (Decimal.zero_le_value_iff.mpr (h c hall)) (not_le.mpr hc)
  · intro h c _hall
    rw [← Decimal.zero_le_value_iff, ← not_lt]
    exact fun hc => h ⟨c, hc⟩

end Balances

namespace Simulation

variable {s : Simulation} {held : UserId -> Balances} {first : UserId} {rest : List UserId}

/-- All wallets of the simulation are there, and these are their contents. -/
def Holds (s : Simulation) (held : UserId -> Balances) : Prop :=
  forall user, user ∈ s.wallets -> s.desk.ledger.wallets.get? user = some (held user)

/-- What the check is for: no wallet is overdrawn, and what has been withdrawn in a contention is
missing from the first wallet and nothing else. -/
structure InOrder (s : Simulation) (held : UserId -> Balances) (first : UserId) : Prop where
  not_overdrawn : forall user, user ∈ s.wallets -> ¬ (held user).Overdrawn
  reconciled : s.scenario = .contention ->
    (held first).usd.value = s.initialBalance.value - 10 * s.metrics.successful

/-!
## What should be left
-/

/-- What should be left can always be computed. If it is rounded, it is below zero, as is the exact
number, so a balance that is not overdrawn is equal to both or to neither. -/
theorem exists_expectedBalance? (hx : s.initialBalance.WithinBounds)
    (hk : s.metrics.successful ≤ 10 ^ 17) :
    exists expected, s.expectedBalance? = some expected ∧
      forall d : Decimal, 0 ≤ d.value ->
        (d.value = expected.value <->
          d.value = s.initialBalance.value - 10 * s.metrics.successful) := by
  rcases le_or_gt (10 * s.metrics.successful : ℚ) s.initialBalance.value with hcovered | hless
  · rcases expectedBalance?_of_covered hx hcovered with ⟨expected, hexpected, hexact⟩
    refine ⟨expected, hexpected, ?_⟩
    intro d _hd
    rw [hexact]
  · rcases expectedBalance?_eq_sub? hk with ⟨taken, hexpected, _hscale, hvalue⟩
    have htaken : taken.value ≤ 10 ^ 18 := by
      have hmost : (s.metrics.successful : ℚ) ≤ 10 ^ 17 := by exact_mod_cast hk
      rw [hvalue]
      linarith
    rw [← hvalue] at hless ⊢
    have hsize : |s.initialBalance.value - taken.value| ≤ 2 ^ 96 - 1 := by
      rw [abs_of_neg (by linarith)]
      linarith [hx.left]
    rcases Decimal.exists_sub? hsize with ⟨expected, hleft⟩
    have hneg := Decimal.value_neg_of_sub? hleft hless
    refine ⟨expected, hexpected.trans hleft, ?_⟩
    intro d hd
    constructor
    · intro h
      linarith
    · intro h
      linarith

/-!
## One wallet
-/

theorem checkWallet_of_get? {user : UserId} {b : Balances}
    (h : s.desk.ledger.wallets.get? user = some b) :
    s.checkWallet user = if b.NonNegative then .ok () else .error (.wentNegative user b) := by
  rw [checkWallet, Desk.balances_eq_ok_iff.mpr h]
  rfl

theorem checkWallet_eq_ok_iff_not_overdrawn {user : UserId} (hheld : s.Holds held)
    (huser : user ∈ s.wallets) : s.checkWallet user = .ok () <-> ¬ (held user).Overdrawn := by
  rw [checkWallet_of_get? (hheld user huser), ← Balances.nonNegative_iff_not_overdrawn]
  by_cases h : (held user).NonNegative
  · rw [if_pos h]
    exact iff_of_true rfl h
  · rw [if_neg h]
    exact iff_of_false (by intro herror; cases herror) h

theorem eq_wentNegative_of_checkWallet {user : UserId} {e : SimulationError}
    (hheld : s.Holds held) (huser : user ∈ s.wallets) (h : s.checkWallet user = .error e) :
    (held user).Overdrawn ∧ e = .wentNegative user (held user) := by
  rw [checkWallet_of_get? (hheld user huser)] at h
  split at h
  next =>
    cases h
  next hneg =>
    cases h
    exact ⟨not_not.mp (mt Balances.nonNegative_iff_not_overdrawn.mpr hneg), rfl⟩

theorem checkContention_of_get? {user : UserId} {b : Balances} {expected : Decimal}
    (h : s.desk.ledger.wallets.get? user = some b)
    (hexpected : s.expectedBalance? = some expected) :
    s.checkContention user =
      if b.usd.SameValue expected then .ok () else .error (.unreconciled b.usd expected) := by
  rw [checkContention, Desk.balances_eq_ok_iff.mpr h, hexpected]
  rfl

/-!
## All wallets
-/

theorem verify_of_overdrawn (hheld : s.Holds held)
    (h : exists user, user ∈ s.wallets ∧ (held user).Overdrawn) :
    exists before user after, s.wallets = before ++ user :: after ∧
      (forall earlier, earlier ∈ before -> ¬ (held earlier).Overdrawn) ∧ (held user).Overdrawn ∧
      s.verify = .error (.wentNegative user (held user)) := by
  cases hchecks : s.wallets.forM s.checkWallet with
  | ok u =>
      rcases h with ⟨user, huser, hoverdrawn⟩
      have hcheck := forM_eq_ok_iff.mp hchecks user huser
      exact absurd hoverdrawn ((checkWallet_eq_ok_iff_not_overdrawn hheld huser).mp hcheck)
  | error e =>
      rcases forM_eq_error_iff.mp hchecks with ⟨before, user, after, hsplit, hbefore, hcheck⟩
      have hmem : forall user', user' ∈ before ++ user :: after -> user' ∈ s.wallets := by
        rw [hsplit]
        exact fun _user' huser' => huser'
      have huser := hmem user (List.mem_append_right before List.mem_cons_self)
      rcases eq_wentNegative_of_checkWallet hheld huser hcheck with ⟨hoverdrawn, he⟩
      refine ⟨before, user, after, hsplit, ?_, hoverdrawn, ?_⟩
      · intro earlier hearlier
        have hin := hmem earlier (List.mem_append_left _ hearlier)
        exact (checkWallet_eq_ok_iff_not_overdrawn hheld hin).mp (hbefore earlier hearlier)
      · rw [verify, hchecks, he]
        rfl

theorem verify_of_none_overdrawn (hwallets : s.wallets = first :: rest) (hheld : s.Holds held)
    (hnone : forall user, user ∈ s.wallets -> ¬ (held user).Overdrawn) :
    s.verify =
      match s.scenario with
      | .random => .ok ()
      | .contention => s.checkContention first := by
  have hchecks : s.wallets.forM s.checkWallet = .ok () :=
    forM_eq_ok_iff.mpr fun user huser =>
      (checkWallet_eq_ok_iff_not_overdrawn hheld huser).mpr (hnone user huser)
  rw [verify, hchecks, hwallets]
  cases s.scenario with
  | random => rfl
  | contention => rfl

section Contention

variable (hwallets : s.wallets = first :: rest) (hheld : s.Holds held)
  (hx : s.initialBalance.WithinBounds) (hk : s.metrics.successful ≤ 10 ^ 17)

include hwallets hheld hx hk

/-- The contention is checked with what should be left as a decimal, and decided as if it were
exact. -/
theorem checkContention_of_none_overdrawn
    (hnone : forall user, user ∈ s.wallets -> ¬ (held user).Overdrawn) :
    exists expected, s.expectedBalance? = some expected ∧
      s.checkContention first =
        if (held first).usd.value = s.initialBalance.value - 10 * s.metrics.successful then .ok ()
        else .error (.unreconciled (held first).usd expected) := by
  have hfirst : first ∈ s.wallets := by
    rw [hwallets]
    exact List.mem_cons_self
  have husd : 0 ≤ (held first).usd.value := not_lt.mp fun hneg => hnone first hfirst ⟨.usd, hneg⟩
  rcases exists_expectedBalance? hx hk with ⟨expected, hexpected, hsame⟩
  refine ⟨expected, hexpected, ?_⟩
  rw [checkContention_of_get? (hheld first hfirst) hexpected]
  simp only [Decimal.sameValue_iff, hsame _ husd]

theorem verify_of_inOrder (h : s.InOrder held first) : s.verify = .ok () := by
  rw [verify_of_none_overdrawn hwallets hheld h.not_overdrawn]
  cases hscenario : s.scenario with
  | random =>
      rfl
  | contention =>
      rcases checkContention_of_none_overdrawn hwallets hheld hx hk h.not_overdrawn with
        ⟨expected, _hexpected, hcheck⟩
      rw [if_pos (h.reconciled hscenario)] at hcheck
      exact hcheck

theorem verify_of_unreconciled (hnone : forall user, user ∈ s.wallets -> ¬ (held user).Overdrawn)
    (hother : ¬ s.InOrder held first) :
    exists expected, s.expectedBalance? = some expected ∧
      s.verify = .error (.unreconciled (held first).usd expected) := by
  rw [verify_of_none_overdrawn hwallets hheld hnone]
  cases hscenario : s.scenario with
  | random =>
      refine absurd ⟨hnone, ?_⟩ hother
      intro hcontention
      rw [hscenario] at hcontention
      cases hcontention
  | contention =>
      rcases checkContention_of_none_overdrawn hwallets hheld hx hk hnone with
        ⟨expected, hexpected, hcheck⟩
      rw [if_neg fun hreconciled => hother ⟨hnone, fun _hcontention => hreconciled⟩] at hcheck
      exact ⟨expected, hexpected, hcheck⟩

theorem verify_eq_ok_iff_inOrder : s.verify = .ok () <-> s.InOrder held first := by
  constructor
  · intro h
    by_contra hother
    by_cases hpoor : exists user, user ∈ s.wallets ∧ (held user).Overdrawn
    · rcases verify_of_overdrawn hheld hpoor with ⟨_, user, _, _, _, _, herror⟩
      rw [h] at herror
      cases herror
    · have hnone : forall user, user ∈ s.wallets -> ¬ (held user).Overdrawn :=
        fun user huser hoverdrawn => hpoor ⟨user, huser, hoverdrawn⟩
      rcases verify_of_unreconciled hwallets hheld hx hk hnone hother with ⟨_, _, herror⟩
      rw [h] at herror
      cases herror
  · exact verify_of_inOrder hwallets hheld hx hk

/-- The check succeeds if and only if the books are in order. If a wallet is overdrawn, the first
such wallet is named in every scenario. If none is, the only thing left to report is the balance of
the contention, with what it should have been. -/
theorem verify_decides :
    (s.verify = .ok () <-> s.InOrder held first) ∧
    ((exists user, user ∈ s.wallets ∧ (held user).Overdrawn) ->
      exists before user after, s.wallets = before ++ user :: after ∧
        (forall earlier, earlier ∈ before -> ¬ (held earlier).Overdrawn) ∧
        (held user).Overdrawn ∧ s.verify = .error (.wentNegative user (held user))) ∧
    ((forall user, user ∈ s.wallets -> ¬ (held user).Overdrawn) -> ¬ s.InOrder held first ->
      exists expected, s.expectedBalance? = some expected ∧
        s.verify = .error (.unreconciled (held first).usd expected)) :=
  ⟨verify_eq_ok_iff_inOrder hwallets hheld hx hk, verify_of_overdrawn hheld,
    verify_of_unreconciled hwallets hheld hx hk⟩

end Contention

theorem verify_decides_two_overdrawn :
    let settled : Balances :=
      ⟨⟨true, 0, 5, by decide, by decide⟩,
        ⟨false, 2281625142643375935439503350, 12, by decide, by decide⟩, .zero⟩
    let indebted : Balances := ⟨.zero, .zero, ⟨true, 1, 28, by decide, by decide⟩⟩
    let desk (b : Balances) : Desk :=
      .start (((Ledger.empty.openWallet (.serial 0) settled).openWallet (.serial 1) b).openWallet
        (.serial 2) b) {} ListedRates.fixed.provider
    let wallets : List UserId := [.serial 0, .serial 1, .serial 2]
    let s : Simulation :=
      ⟨.contention, desk settled, wallets, ⟨false, 2 ^ 96 - 1, 11, by decide, by decide⟩,
        { Metrics.empty with successful := 79 * 10 ^ 15 }⟩
    let s' : Simulation :=
      ⟨.contention, desk indebted, wallets, ⟨false, 1, 28, by decide, by decide⟩,
        { Metrics.empty with successful := 10 ^ 17 }⟩
    let held (b : Balances) (user : UserId) : Balances :=
      if user = .serial 0 then settled else b
    (s.Holds (held settled) ∧ s.initialBalance.WithinBounds ∧ s.metrics.successful ≤ 10 ^ 17) ∧
      (s'.Holds (held indebted) ∧ s'.initialBalance.WithinBounds ∧
        s'.metrics.successful ≤ 10 ^ 17) ∧
      s.verify = .ok () ∧ s'.verify = .error (.wentNegative (.serial 1) indebted) := by
  intro settled indebted desk wallets s s' held
  have hheld : s.Holds (held settled) := by
    unfold Holds
    decide +kernel
  have hheld' : s'.Holds (held indebted) := by
    unfold Holds
    decide +kernel
  have hx : s.initialBalance.WithinBounds := by decide
  have hx' : s'.initialBalance.WithinBounds := by decide
  have hk : s.metrics.successful ≤ 10 ^ 17 := by decide
  have hk' : s'.metrics.successful ≤ 10 ^ 17 := by decide
  have hsettled : ¬ settled.Overdrawn := Balances.nonNegative_iff_not_overdrawn.mp (by decide)
  have hindebted : indebted.Overdrawn := by
    refine ⟨.eur, ?_⟩
    norm_num [indebted, Balances.get, Decimal.value, Decimal.coefficient]
  refine ⟨⟨hheld, hx, hk⟩, ⟨hheld', hx', hk'⟩, ?_, ?_⟩
  · apply (verify_decides rfl hheld hx hk).left.mpr
    constructor
    · intro user _huser
      change ¬ (if user = .serial 0 then settled else settled).Overdrawn
      rwa [ite_self]
    · intro _hscenario
      norm_num [s, held, settled, Decimal.value, Decimal.coefficient]
  · have hsecond : (held indebted (.serial 1)).Overdrawn := hindebted
    rcases (verify_decides rfl hheld' hx' hk').right.left ⟨.serial 1, by decide, hsecond⟩ with
      ⟨before, user, after, hsplit, hbefore, huser, hverify⟩
    cases before with
    | nil =>
        cases hsplit
        exact absurd huser hsettled
    | cons x before =>
        cases before with
        | nil =>
            cases hsplit
            exact hverify
        | cons y before =>
            have hy : UserId.serial 1 = y := (List.cons.inj (List.cons.inj hsplit).right).left
            rw [← hy] at hbefore
            exact absurd hsecond (hbefore _ (List.mem_cons_of_mem x List.mem_cons_self))

end Simulation

end CurrencyWallet
