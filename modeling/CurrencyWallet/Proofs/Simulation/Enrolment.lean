import CurrencyWallet.Proofs.Ledger.Registration
import CurrencyWallet.Proofs.Service.Operations
import CurrencyWallet.Proofs.Simulation.Course

/-!
# The users of a simulation

The users of a run are told apart by their numbers, so all of them can be registered, and a
balance within bounds can be deposited into an empty wallet. A simulation therefore begins with
one wallet for each user, every balance of which is the same. From there it takes its course.
-/

namespace CurrencyWallet

namespace Balances

def uniform (d : Decimal) : Balances :=
  ⟨d, d, d⟩

@[simp] theorem get_uniform (d : Decimal) (c : Currency) : (uniform d).get c = d := by
  cases c <;> rfl

end Balances

/-!
## Funding a wallet
-/

theorem Currency.parse_code (c : Currency) : parse c.code = .ok c := by
  have hcapital : c.code.map Char.toUpper = c.code := by
    apply String.ext
    rw [String.toList_map]
    cases c <;> rfl
  rw [parse, hcapital, ofCode?_code]

namespace Decimal

theorem zero_add? (d : Decimal) : zero.add? d = some d := by
  rw [add?, if_pos (show zero.IsZero from rfl)]

/-- What is in a balance after a deposit into an empty one, where there is none to be made if the
amount is zero. -/
def opening (d : Decimal) : Decimal :=
  if d.IsZero then .zero else d

theorem value_opening (d : Decimal) : d.opening.value = d.value := by
  unfold opening
  split
  next hzero =>
    rw [value_zero, value_eq_zero_iff.mpr hzero]
  next =>
    rfl

end Decimal

namespace Ledger

structure WithWallet (l : Ledger) (user : UserId) (b : Balances) (l' : Ledger) : Prop where
  users_eq : l'.users = l.users
  wallet : l'.wallets.get? user = some b
  others : forall id, id ≠ user -> l'.wallets.get? id = l.wallets.get? id

theorem withWallet_self {l : Ledger} {user : UserId} {b : Balances}
    (h : l.wallets.get? user = some b) : l.WithWallet user b l :=
  ⟨rfl, h, fun _id _hne => rfl⟩

theorem withWallet_openWallet (l : Ledger) (user : UserId) (b : Balances) :
    l.WithWallet user b (l.openWallet user b) :=
  ⟨rfl, l.get?_openWallet_self user b, fun _id hne => l.get?_openWallet_of_ne user b hne⟩

theorem WithWallet.trans {l l' l'' : Ledger} {user : UserId} {b b' : Balances}
    (h : l.WithWallet user b l') (h' : l'.WithWallet user b' l'') : l.WithWallet user b' l'' where
  users_eq := h'.users_eq.trans h.users_eq
  wallet := h'.wallet
  others := fun id hne => (h'.others id hne).trans (h.others id hne)

end Ledger

namespace Desk

theorem allowedCurrency_code {amount : Decimal} (hpos : 0 < amount.value) (c : Currency) :
    allowedCurrency c.code amount = .ok c := by
  have hallowed : ¬ amount ≤ .zero := by
    rw [← Decimal.value_le_value_iff, Decimal.value_zero]
    exact not_le.mpr hpos
  rw [allowedCurrency, requirePositive, if_neg hallowed, parseCurrency, Currency.parse_code]
  rfl

section Funding

variable {d : Desk} {user : UserId} {b : Balances} {x : Decimal} (hpos : 0 < x.value)
  (hrange : x.InBalanceRange)

include hpos hrange

theorem deposit_of_zero {c : Currency} (hget : d.ledger.wallets.get? user = some b)
    (hzero : b.get c = .zero) :
    d.deposit user c.code x =
      (.ok (b.set c x), { d with ledger := d.ledger.openWallet user (b.set c x) }) := by
  have hsum : (b.get c).add? x = some x := by
    rw [hzero, Decimal.zero_add?]
  have hbooked : d.ledger.Booked user (.deposit c x) (b.set c x) :=
    ⟨b, hget, Mutation.Booked.deposit hsum hrange⟩
  rw [deposit, allowedCurrency_code hpos]
  dsimp only [apply]
  rw [Ledger.apply_of_booked hbooked]
  rfl

theorem exists_fund {cs : List Currency} (hnodup : cs.Nodup)
    (hget : d.ledger.wallets.get? user = some b) (hzero : forall c, c ∈ cs -> b.get c = .zero) :
    exists b' l', d.fund user x cs = (.ok (), { d with ledger := l' }) ∧
      d.ledger.WithWallet user b' l' ∧ forall c, b'.get c = if c ∈ cs then x else b.get c := by
  induction cs generalizing d b with
  | nil =>
      exact ⟨b, d.ledger, rfl, Ledger.withWallet_self hget, fun c => (if_neg List.not_mem_nil).symm⟩
  | cons c cs ih =>
      rcases List.nodup_cons.mp hnodup with ⟨hc, hcs⟩
      have hdeposit := deposit_of_zero hpos hrange hget (hzero c List.mem_cons_self)
      have hmore : forall c', c' ∈ cs -> (b.set c x).get c' = .zero := by
        intro c' hc'
        have hne : c' ≠ c := fun heq => hc (heq ▸ hc')
        rw [Balances.get_set_of_ne b x hne]
        exact hzero c' (List.mem_cons_of_mem c hc')
      rcases ih (d := { d with ledger := d.ledger.openWallet user (b.set c x) }) hcs
        (d.ledger.get?_openWallet_self user _) hmore with ⟨b', l', hfund, hwallet, hb'⟩
      refine ⟨b', l', ?_, (d.ledger.withWallet_openWallet user _).trans hwallet, ?_⟩
      · rw [fund, hdeposit]
        exact hfund
      · intro c'
        rw [hb' c']
        by_cases heq : c' = c
        · rw [heq, if_neg hc, if_pos List.mem_cons_self, Balances.get_set_self]
        · rw [Balances.get_set_of_ne b x heq]
          simp [heq]

end Funding

theorem exists_fund_all {d : Desk} {user : UserId} {x : Decimal} (hx : x.WithinBounds)
    (hempty : d.ledger.wallets.get? user = some .zero) :
    exists l', d.fund user x (if x.IsZero then [] else Currency.all) =
        (.ok (), { d with ledger := l' }) ∧
      d.ledger.WithWallet user (.uniform x.opening) l' := by
  unfold Decimal.opening
  by_cases hzero : x.IsZero
  · rw [if_pos hzero, if_pos hzero]
    exact ⟨d.ledger, rfl, Ledger.withWallet_self hempty⟩
  · rw [if_neg hzero, if_neg hzero]
    have hne : x.value ≠ 0 := fun h => hzero (Decimal.value_eq_zero_iff.mp h)
    have hpos : 0 < x.value := lt_of_le_of_ne hx.left hne.symm
    have hrange := (Decimal.withinBounds_iff.mp hx).right
    rcases exists_fund hpos hrange (show Currency.all.Nodup by decide) hempty
      (fun c _hc => Balances.get_uniform .zero c) with ⟨b, l', hfund, hwallet, hb⟩
    have hb' : b = .uniform x := by
      apply Balances.ext_get
      intro c
      rw [hb c, Balances.get_uniform, if_pos (by cases c <;> decide)]
    rw [← hb']
    exact ⟨l', hfund, hwallet⟩

end Desk

/-!
## Registering the users
-/

namespace Simulation

section Names

variable {run : UserId} {i j : Nat}

theorem username_injective (h : (participant run i).username = (participant run j).username) :
    i = j := by
  have hchars := congrArg String.toList h
  have hname : forall n, (participant run n).username.toList =
      "sim-".toList ++ (mark run).toList ++ "-".toList ++ (Text.padded 5 n).toList := by
    intro n
    simp [participant, toString]
  rw [hname, hname, List.append_cancel_left_eq] at hchars
  exact Text.padded_injective (String.ext hchars)

theorem email_injective (h : (participant run i).email = (participant run j).email) : i = j := by
  have haddress : forall n,
      (participant run n).email = (participant run n).username ++ "@simulator.local" :=
    fun _n => rfl
  have hchars := congrArg String.toList h
  rw [haddress, haddress, String.toList_append, String.toList_append,
    List.append_cancel_right_eq] at hchars
  exact username_injective (String.ext hchars)

end Names

/-- The users with the numbers below `number` are registered and nobody else, and their wallets
are funded. -/
structure Enrolled (start : Simulation) (run : UserId) (x : Decimal) (number : Nat)
    (s : Simulation) : Prop where
  frame : s = { start with desk := { start.desk with ledger := s.desk.ledger }, wallets := s.wallets }
  wallet : forall id, s.desk.ledger.wallets.get? id =
    if id ∈ s.wallets then some (.uniform x.opening) else none
  numbered : forall name r, s.desk.ledger.users.get? name = some r ->
    exists i, i < number ∧ name = (participant run i).username ∧ r.email = (participant run i).email

section Enrolled

variable {start s : Simulation} {run : UserId} {x : Decimal} {number : Nat}

theorem Enrolled.register (h : Enrolled start run x number s) (id : UserId) :
    s.desk.register id (participant run number) =
      (.ok id,
        { s.desk with
          ledger := s.desk.ledger.enrol id (.ofMilliseconds s.desk.quotes.clock)
            (participant run number) }) := by
  have hregistered := s.desk.ledger.register_registered id (.ofMilliseconds s.desk.quotes.clock)
    (participant run number)
  unfold Desk.register
  generalize s.desk.ledger.register id (.ofMilliseconds s.desk.quotes.clock)
    (participant run number) = outcome at hregistered ⊢
  cases hregistered with
  | nameTaken hname =>
      -- Whoever has the name or the address has a smaller number, and so neither of them.
      rcases Option.isSome_iff_exists.mp hname with ⟨r, hr⟩
      rcases h.numbered _ r hr with ⟨i, hi, hsame, _hemail⟩
      exact absurd (username_injective hsame).symm (Nat.ne_of_lt hi)
  | emailTaken _hname hemail =>
      rcases hemail with ⟨name, r, hr, hsame⟩
      rcases h.numbered name r hr with ⟨i, hi, _hname, hi'⟩
      exact absurd (email_injective (hi'.symm.trans hsame)) (Nat.ne_of_lt hi)
  | enrolled _hname _hemail =>
      rfl

theorem Enrolled.enrol (h : Enrolled start run x number s) (hx : x.WithinBounds) (id : UserId) :
    exists s', s.enrol run number id x = (.ok (), s') ∧ s'.wallets = s.wallets ++ [id] ∧
      Enrolled start run x (number + 1) s' := by
  let u := participant run number
  let l := s.desk.ledger.enrol id (.ofMilliseconds s.desk.quotes.clock) u
  have hempty : l.wallets.get? id = some .zero := by
    rw [Ledger.get?_wallets_enrol, if_pos rfl]
  rcases Desk.exists_fund_all (d := { s.desk with ledger := l }) hx hempty with
    ⟨l', hfund, hwallet⟩
  refine ⟨{ s with desk := { s.desk with ledger := l' }, wallets := s.wallets ++ [id] }, ?_, rfl, ?_⟩
  · rw [Simulation.enrol, h.register id]
    dsimp only
    rw [hfund]
  · constructor
    · rw [h.frame]
    · intro id'
      dsimp only
      by_cases heq : id' = id
      · rw [heq, hwallet.wallet, if_pos (List.mem_append_right _ List.mem_cons_self)]
      · rw [hwallet.others id' heq]
        change (s.desk.ledger.enrol id _ u).wallets.get? id' = _
        rw [Ledger.get?_wallets_enrol, if_neg heq, h.wallet id']
        simp [heq]
    · intro name r hr
      dsimp only at hr
      rw [hwallet.users_eq] at hr
      change (s.desk.ledger.enrol id _ u).users.get? name = some r at hr
      rw [Ledger.get?_users_enrol] at hr
      split at hr
      next hname =>
        cases hr
        exact ⟨number, Nat.lt_succ_self number, hname, rfl⟩
      next =>
        rcases h.numbered name r hr with ⟨i, hi, hsame⟩
        exact ⟨i, Nat.lt_succ_of_lt hi, hsame⟩

theorem Enrolled.enrolAll (h : Enrolled start run x number s) (hx : x.WithinBounds)
    (ids : List UserId) :
    exists s', s.enrolAll run number x ids = (.ok (), s') ∧ s'.wallets = s.wallets ++ ids ∧
      Enrolled start run x (number + ids.length) s' := by
  induction ids generalizing s number with
  | nil =>
      exact ⟨s, rfl, (List.append_nil _).symm, h⟩
  | cons id ids ih =>
      rcases h.enrol hx id with ⟨s₁, henrol, hwallets, h₁⟩
      rcases ih h₁ with ⟨s', henrolAll, hwallets', h'⟩
      refine ⟨s', ?_, ?_, ?_⟩
      · rw [Simulation.enrolAll, henrol]
        exact henrolAll
      · rw [hwallets', hwallets, List.append_assoc, List.singleton_append]
      · rw [List.length_cons, Nat.add_comm ids.length, ← Nat.add_assoc]
        exact h'

end Enrolled

/-- A simulation that has not begun: every user has a wallet, every balance of which is the same,
and there are no other wallets. -/
structure Ready (scenario : Scenario) (quotes : Quotes) (ids : List UserId) (x : Decimal)
    (s : Simulation) : Prop where
  scenario_eq : s.scenario = scenario
  quotes_eq : s.desk.quotes = quotes
  wallets_eq : s.wallets = ids
  initialBalance_eq : s.initialBalance = x
  metrics_eq : s.metrics = .empty
  wallet : forall id, s.desk.ledger.wallets.get? id =
    if id ∈ ids then some (.uniform x.opening) else none

theorem exists_populate (scenario : Scenario) (policy : CachePolicy) (provider : Provider)
    (ids : List UserId) {x : Decimal} (hx : x.WithinBounds) (run : UserId) :
    exists s, (start scenario (Desk.start .empty policy provider)).populate ids x run =
        (.ok (), s) ∧
      Ready scenario (Quotes.start policy provider) ids x s := by
  let s := start scenario (Desk.start .empty policy provider)
  have hbegin : Enrolled s run x 0 s := by
    refine ⟨rfl, fun id => rfl, ?_⟩
    intro name r hr
    cases hr
  rcases hbegin.enrolAll hx ids with ⟨s', henrolAll, hwallets, h'⟩
  refine ⟨{ s' with initialBalance := x }, ?_, ?_⟩
  · rw [populate, henrolAll]
  · have hframe := h'.frame
    constructor
    · rw [hframe]
      rfl
    · rw [hframe]
      rfl
    · exact hwallets
    · rfl
    · rw [hframe]
      rfl
    · intro id
      dsimp only
      rw [h'.wallet id, hwallets]
      rfl

/-- A simulation from the first registration to the last operation: whatever holds when all users
are enrolled, and is kept, holds at the end. -/
theorem exists_simulation {σ : Type} [WordSource σ] {providers : Provider -> Prop}
    {p : Desk -> (Outcome -> Nat) -> Prop} (scenario : Scenario) (policy : CachePolicy)
    (provider : Provider) {ids : List UserId} (hids : ids ≠ []) {x : Decimal}
    (hx : x.WithinBounds) (run : UserId) {sources : Nat -> σ} {operations concurrency : Nat}
    (hdraws : Drawn sources scenario ids.length 0 (shares operations concurrency))
    (hkept : Kept σ providers scenario ids p)
    (hstart : forall s, Ready scenario (Quotes.start policy provider) ids x s ->
      p s.desk (fun _o => 0)) :
    exists s, (start scenario (Desk.start .empty policy provider)).populate ids x run =
        (.ok (), s) ∧
      Ready scenario (Quotes.start policy provider) ids x s ∧
      (exists s', s.run sources operations concurrency = (.ok (), s') ∧ Ended s operations p s') ∧
      forall s', Course providers sources s operations concurrency s' -> Ended s operations p s' := by
  rcases exists_populate scenario policy provider ids hx run with ⟨s, hpopulate, hready⟩
  rw [← hready.scenario_eq, ← hready.wallets_eq] at hdraws hkept
  rw [← hready.wallets_eq] at hids
  have hall : forall s', Course providers sources s operations concurrency s' ->
      Ended s operations p s' :=
    fun s' hcourse => hcourse.ended hkept hready.metrics_eq (hstart s hready)
  rcases exists_run providers hids hdraws with ⟨s', hrun, hcourse⟩
  exact ⟨s, hpopulate, hready, ⟨s', hrun, hall s' hcourse⟩, hall⟩

end Simulation

end CurrencyWallet
