import CurrencyWallet.Proofs.Simulation.Metrics
import CurrencyWallet.Proofs.Simulation.Scenario
import CurrencyWallet.Simulation.Basic
import Mathlib.Algebra.Ring.Nat
import Mathlib.Logic.Relation

/-!
# The course of a simulation

The tasks of a simulation take turns in any order. A turn is one operation, and between the turns
time passes and rates change. `Course` leaves all of this open, so what is proved of a course holds
however the tasks are scheduled; that the tasks come one after the other is one course of many.
Whatever every turn keeps, and whatever happens between the turns, holds at the end, when as many
operations have been recorded as were asked for.
-/

namespace CurrencyWallet

namespace Simulation

/-!
## Shares
-/

theorem sum_range_share (q r n : Nat) :
    ((List.range n).map (fun i => q + if i < r then 1 else 0)).sum = n * q + min n r := by
  induction n with
  | zero =>
      simp
  | succ n ih =>
      rw [List.range_succ, List.map_append, List.sum_append, ih, List.map_singleton,
        List.sum_singleton, Nat.succ_mul]
      split
      · omega
      · omega

theorem length_shares (operations concurrency : Nat) :
    (shares operations concurrency).length = max concurrency 1 := by
  rw [shares, List.length_map, List.length_range]

theorem sum_shares (operations concurrency : Nat) :
    (shares operations concurrency).sum = operations := by
  have hpos : 0 < max concurrency 1 := by omega
  have hrest := Nat.le_of_lt (Nat.mod_lt operations hpos)
  rw [shares, sum_range_share, Nat.min_eq_right hrest]
  exact Nat.div_add_mod operations (max concurrency 1)

theorem mem_shares {operations concurrency share : Nat}
    (h : share ∈ shares operations concurrency) :
    share = operations / max concurrency 1 ∨ share = operations / max concurrency 1 + 1 := by
  rcases List.mem_map.mp h with ⟨task, _htask, rfl⟩
  split
  · exact Or.inr rfl
  · exact Or.inl rfl

/-- No task has more than one operation more than another. -/
theorem le_succ_of_mem_shares {operations concurrency share share' : Nat}
    (h : share ∈ shares operations concurrency) (h' : share' ∈ shares operations concurrency) :
    share ≤ share' + 1 := by
  have hshare := mem_shares h
  have hshare' := mem_shares h'
  omega

/-!
## Turns in any order
-/

variable {σ : Type} [WordSource σ]

/-- A task under way: how many operations it still has to carry out, its random words, and what it
has recorded. -/
structure Worker (σ : Type) where
  left : Nat
  source : σ
  metrics : Metrics

def workers (sources : Nat -> σ) (task : Nat) : List Nat -> List (Worker σ)
  | [] => []
  | share :: rest => ⟨share, sources task, .empty⟩ :: workers sources (task + 1) rest

/-- One of the tasks takes a turn, a task that has nothing left to do hands in what it has
recorded, time passes, or one of these providers takes over. -/
inductive Step (providers : Provider -> Prop) :
    List (Worker σ) × Simulation -> List (Worker σ) × Simulation -> Prop where
  | turn (before after : List (Worker σ)) {left : Nat} {source source' : σ} {m : Metrics}
      {s : Simulation} {user : UserId} {operation : Operation} (microseconds : Nat) :
      nextTurn? s.scenario s.wallets source = some (user, operation, source') ->
      Step providers (before ++ ⟨left + 1, source, m⟩ :: after, s)
        (before ++ ⟨left, source',
            m.record (.ofResult (s.desk.perform user operation).1) microseconds⟩ :: after,
          { s with desk := (s.desk.perform user operation).2 })
  | finish (before after : List (Worker σ)) {source : σ} {m : Metrics} {s : Simulation} :
      Step providers (before ++ ⟨0, source, m⟩ :: after, s)
        (before ++ after, { s with metrics := s.metrics.merge m })
  | pause (tasks : List (Worker σ)) {s : Simulation} (milliseconds : Nat) :
      Step providers (tasks, s) (tasks, { s with desk := s.desk.advance milliseconds })
  | takeover (tasks : List (Worker σ)) {s : Simulation} {provider : Provider} :
      providers provider ->
      Step providers (tasks, s) (tasks, { s with desk := s.desk.setProvider provider })

def Course (providers : Provider -> Prop) (sources : Nat -> σ) (s : Simulation)
    (operations concurrency : Nat) (s' : Simulation) : Prop :=
  Relation.ReflTransGen (Step providers) (workers sources 0 (shares operations concurrency), s) ([], s')

/-!
## What is recorded
-/

def recorded (f : Metrics -> Nat) (tasks : List (Worker σ)) (handedIn : Metrics) : Nat :=
  f handedIn + (tasks.map (fun w => f w.metrics)).sum

def counts (tasks : List (Worker σ)) (handedIn : Metrics) : Outcome -> Nat :=
  fun o => recorded (fun m => m.counted o) tasks handedIn

def tick (n : Outcome -> Nat) (o : Outcome) : Outcome -> Nat :=
  fun o' => n o' + if o' = o then 1 else 0

theorem tick_self (n : Outcome -> Nat) (o : Outcome) : tick n o o = n o + 1 := by
  rw [tick, if_pos rfl]

theorem tick_of_ne (n : Outcome -> Nat) {o o' : Outcome} (h : o' ≠ o) : tick n o o' = n o' := by
  rw [tick, if_neg h, Nat.add_zero]

def inAll (n : Outcome -> Nat) : Nat :=
  n .success + n .rejected + n .failed

theorem inAll_tick (n : Outcome -> Nat) (o : Outcome) : inAll (tick n o) = inAll n + 1 := by
  unfold inAll tick
  cases o with
  | success =>
      simp
      omega
  | rejected =>
      simp
      omega
  | failed =>
      simp
      omega

def outstanding (tasks : List (Worker σ)) : Nat :=
  (tasks.map Worker.left).sum

section Recorded

omit [WordSource σ]

variable (before after tasks : List (Worker σ)) (left : Nat) (source : σ) (m handedIn : Metrics)

theorem sum_map_middle (f : Worker σ -> Nat) (w : Worker σ) :
    ((before ++ w :: after).map f).sum = f w + ((before ++ after).map f).sum := by
  simp only [List.map_append, List.map_cons, List.sum_append, List.sum_cons]
  omega

theorem outstanding_middle :
    outstanding (before ++ ⟨left, source, m⟩ :: after) = left + outstanding (before ++ after) :=
  sum_map_middle before after Worker.left _

theorem recorded_middle (f : Metrics -> Nat) :
    recorded f (before ++ ⟨left, source, m⟩ :: after) handedIn =
      f m + recorded f (before ++ after) handedIn := by
  rw [recorded, recorded, sum_map_middle, Nat.add_left_comm]

theorem recorded_merge {f : Metrics -> Nat} (h : f (handedIn.merge m) = f handedIn + f m) :
    recorded f tasks (handedIn.merge m) = f m + recorded f tasks handedIn := by
  rw [recorded, recorded, h, Nat.add_comm (f handedIn), Nat.add_assoc]

theorem counts_turn (left' : Nat) (source' : σ) (o : Outcome) (microseconds : Nat) :
    counts (before ++ ⟨left', source', m.record o microseconds⟩ :: after) handedIn =
      tick (counts (before ++ ⟨left, source, m⟩ :: after) handedIn) o := by
  funext o'
  rw [tick, counts, counts, recorded_middle, recorded_middle, Metrics.counted_record,
    Nat.add_right_comm]

theorem counts_finish :
    counts (before ++ after) (handedIn.merge m) =
      counts (before ++ ⟨left, source, m⟩ :: after) handedIn := by
  funext o
  rw [counts, counts, recorded_middle]
  exact recorded_merge _ m handedIn (Metrics.counted_merge handedIn m o)

end Recorded

/-!
## What is kept throughout
-/

/-- Every turn keeps a property of the desk and of the counts of operations, and so does what
happens between the turns. -/
structure Kept (σ : Type) [WordSource σ] (providers : Provider -> Prop) (scenario : Scenario)
    (wallets : List UserId) (p : Desk -> (Outcome -> Nat) -> Prop) : Prop where
  turn : forall (d : Desk) n (source source' : σ) user operation,
    nextTurn? scenario wallets source = some (user, operation, source') -> p d n ->
      p (d.perform user operation).2 (tick n (.ofResult (d.perform user operation).1))
  pause : forall (d : Desk) n milliseconds, p d n -> p (d.advance milliseconds) n
  takeover : forall (d : Desk) n provider, providers provider -> p d n -> p (d.setProvider provider) n

structure Underway (start : Simulation) (operations : Nat)
    (p : Desk -> (Outcome -> Nat) -> Prop) (tasks : List (Worker σ)) (s : Simulation) : Prop where
  scenario_eq : s.scenario = start.scenario
  wallets_eq : s.wallets = start.wallets
  initialBalance_eq : s.initialBalance = start.initialBalance
  holds : p s.desk (counts tasks s.metrics)
  total_eq : recorded Metrics.total tasks s.metrics = inAll (counts tasks s.metrics)
  inAll_add : inAll (counts tasks s.metrics) + outstanding tasks = operations

section Underway

variable {providers : Provider -> Prop} {start s : Simulation} {operations : Nat}
  {p : Desk -> (Outcome -> Nat) -> Prop} {before after tasks : List (Worker σ)}
  {source source' : σ} {m : Metrics}

theorem Underway.turn (hp : Kept σ providers start.scenario start.wallets p) {left : Nat}
    (h : Underway start operations p (before ++ ⟨left + 1, source, m⟩ :: after) s)
    {user : UserId} {operation : Operation} (microseconds : Nat)
    (hturn : nextTurn? s.scenario s.wallets source = some (user, operation, source')) :
    Underway start operations p
      (before ++ ⟨left, source',
        m.record (.ofResult (s.desk.perform user operation).1) microseconds⟩ :: after)
      { s with desk := (s.desk.perform user operation).2 } where
  scenario_eq := h.scenario_eq
  wallets_eq := h.wallets_eq
  initialBalance_eq := h.initialBalance_eq
  holds := by
    rw [h.scenario_eq, h.wallets_eq] at hturn
    rw [counts_turn before after (left + 1) source m]
    exact hp.turn s.desk _ source source' user operation hturn h.holds
  total_eq := by
    have htotal := h.total_eq
    rw [counts_turn before after (left + 1) source m, inAll_tick, ← htotal, recorded_middle,
      recorded_middle, Metrics.total_record, Nat.add_right_comm]
  inAll_add := by
    have hsum := h.inAll_add
    rw [outstanding_middle] at hsum ⊢
    rw [counts_turn before after (left + 1) source m, inAll_tick]
    dsimp only
    omega

omit [WordSource σ] in
theorem Underway.finish
    (h : Underway start operations p (before ++ ⟨0, source, m⟩ :: after) s) :
    Underway start operations p (before ++ after) { s with metrics := s.metrics.merge m } where
  scenario_eq := h.scenario_eq
  wallets_eq := h.wallets_eq
  initialBalance_eq := h.initialBalance_eq
  holds := by
    rw [counts_finish before after 0 source m]
    exact h.holds
  total_eq := by
    have htotal := h.total_eq
    rw [counts_finish before after 0 source m, ← htotal, recorded_middle]
    exact recorded_merge (f := Metrics.total) _ m s.metrics rfl
  inAll_add := by
    have hsum := h.inAll_add
    rw [outstanding_middle, Nat.zero_add] at hsum
    rw [counts_finish before after 0 source m]
    exact hsum

theorem Underway.step {a b : List (Worker σ) × Simulation}
    (hp : Kept σ providers start.scenario start.wallets p) (h : Underway start operations p a.1 a.2)
    (hstep : Step providers a b) : Underway start operations p b.1 b.2 := by
  cases hstep with
  | turn before after microseconds hturn =>
      exact h.turn hp microseconds hturn
  | finish before after =>
      exact h.finish
  | pause tasks milliseconds =>
      exact ⟨h.scenario_eq, h.wallets_eq, h.initialBalance_eq,
        hp.pause _ _ milliseconds h.holds, h.total_eq, h.inAll_add⟩
  | takeover tasks hprovider =>
      exact ⟨h.scenario_eq, h.wallets_eq, h.initialBalance_eq,
        hp.takeover _ _ _ hprovider h.holds, h.total_eq, h.inAll_add⟩

omit [WordSource σ] in
theorem outstanding_workers (sources : Nat -> σ) (task : Nat) (shares : List Nat) :
    outstanding (workers sources task shares) = shares.sum := by
  induction shares generalizing task with
  | nil =>
      rfl
  | cons share rest ih =>
      change share + outstanding (workers sources (task + 1) rest) = _
      rw [ih, List.sum_cons]

omit [WordSource σ] in
theorem recorded_workers {f : Metrics -> Nat} (hf : f .empty = 0) (sources : Nat -> σ)
    (task : Nat) (shares : List Nat) (handedIn : Metrics) :
    recorded f (workers sources task shares) handedIn = f handedIn := by
  induction shares generalizing task with
  | nil =>
      rfl
  | cons share rest ih =>
      have hfirst := recorded_middle [] (workers sources (task + 1) rest) share (sources task)
        .empty handedIn f
      rw [hf, Nat.zero_add] at hfirst
      exact hfirst.trans (ih (task + 1))

omit [WordSource σ] in
theorem counts_workers (sources : Nat -> σ) (task : Nat) (shares : List Nat) :
    counts (workers sources task shares) .empty = fun _o => 0 := by
  funext o
  rw [counts, recorded_workers (Metrics.counted_empty o), Metrics.counted_empty]

omit [WordSource σ] in
theorem underway_start {sources : Nat -> σ} {concurrency : Nat} (hm : start.metrics = .empty)
    (hstart : p start.desk (fun _o => 0)) :
    Underway start operations p (workers sources 0 (shares operations concurrency)) start where
  scenario_eq := rfl
  wallets_eq := rfl
  initialBalance_eq := rfl
  holds := by
    rw [hm, counts_workers]
    exact hstart
  total_eq := by
    rw [hm, counts_workers, recorded_workers rfl]
    rfl
  inAll_add := by
    rw [hm, counts_workers, outstanding_workers, sum_shares]
    exact Nat.zero_add operations

theorem Underway.steps {a b : List (Worker σ) × Simulation}
    (hp : Kept σ providers start.scenario start.wallets p) (h : Underway start operations p a.1 a.2)
    (hsteps : Relation.ReflTransGen (Step providers) a b) : Underway start operations p b.1 b.2 := by
  induction hsteps with
  | refl =>
      exact h
  | tail _hsteps hstep ih =>
      exact ih.step hp hstep

end Underway

/-- At the end there holds what every turn keeps and whatever happens between the turns, and as
many operations have been recorded as were asked for. -/
structure Ended (start : Simulation) (operations : Nat) (p : Desk -> (Outcome -> Nat) -> Prop)
    (s : Simulation) : Prop where
  scenario_eq : s.scenario = start.scenario
  wallets_eq : s.wallets = start.wallets
  initialBalance_eq : s.initialBalance = start.initialBalance
  holds : p s.desk s.metrics.counted
  total_eq : s.metrics.total = operations
  inAll_eq : inAll s.metrics.counted = operations

theorem Course.ended {providers : Provider -> Prop} {sources : Nat -> σ} {s s' : Simulation}
    {operations concurrency : Nat} {p : Desk -> (Outcome -> Nat) -> Prop}
    (h : Course providers sources s operations concurrency s')
    (hp : Kept σ providers s.scenario s.wallets p) (hm : s.metrics = .empty)
    (hstart : p s.desk (fun _o => 0)) : Ended s operations p s' := by
  have hbegin : Underway s operations p (workers sources 0 (shares operations concurrency)) s :=
    underway_start hm hstart
  have hend := Underway.steps hp hbegin h
  exact ⟨hend.scenario_eq, hend.wallets_eq, hend.initialBalance_eq, hend.holds,
    hend.total_eq.trans hend.inAll_add, hend.inAll_add⟩

/-!
## One task after the other
-/

theorem nextTurn?_of_nextOperation? {scenario : Scenario} {wallets : List UserId} {number : Nat}
    {operation : Operation} {source source' : σ} (hwallets : wallets ≠ [])
    (h : scenario.nextOperation? wallets.length source = some ((number, operation), source')) :
    exists user, nextTurn? scenario wallets source = some (user, operation, source') := by
  have hnumber := Scenario.number_lt_of_nextOperation? (List.length_pos_iff.mpr hwallets) h
  refine ⟨wallets[number], ?_⟩
  rw [nextTurn?, h]
  change (wallets[number]?.bind fun user => some (user, operation, source')) = _
  rw [List.getElem?_eq_getElem hnumber, Option.bind_some]

section Sequence

variable (providers : Provider -> Prop)

theorem exists_work {s : Simulation} (hwallets : s.wallets ≠ []) {n : Nat} {source : σ}
    (hdraws : (s.scenario.nextOperations? s.wallets.length source n).isSome) (m : Metrics)
    (rest : List (Worker σ)) :
    exists m' d' source', work s.scenario s.wallets n source s.desk m = (.ok m', d') ∧
      Relation.ReflTransGen (Step providers) (⟨n, source, m⟩ :: rest, s)
        (⟨0, source', m'⟩ :: rest, { s with desk := d' }) := by
  induction n generalizing s source m with
  | zero =>
      exact ⟨m, s.desk, source, rfl, Relation.ReflTransGen.refl⟩
  | succ n ih =>
      rcases Scenario.nextOperations?_succ_isSome hdraws with
        ⟨⟨number, operation⟩, next, hnext, hmore⟩
      rcases nextTurn?_of_nextOperation? hwallets hnext with ⟨user, hturn⟩
      let after := (s.desk.perform user operation).2
      let outcome := Outcome.ofResult (s.desk.perform user operation).1
      let microseconds := (after.quotes.clock - s.desk.quotes.clock) * 1000
      -- The first task takes all its turns before any other task takes one.
      rcases ih (s := { s with desk := after }) hwallets hmore (m.record outcome microseconds) with
        ⟨m', d', source', hwork, hsteps⟩
      refine ⟨m', d', source', ?_, Relation.ReflTransGen.head ?_ hsteps⟩
      · rw [work, hturn]
        exact hwork
      · exact Step.turn [] rest microseconds hturn

def Drawn (sources : Nat -> σ) (scenario : Scenario) (wallets task : Nat) (shares : List Nat) :
    Prop :=
  forall i share, shares[i]? = some share ->
    (scenario.nextOperations? wallets (sources (task + i)) share).isSome

theorem exists_runTasks {sources : Nat -> σ} {s : Simulation} (hwallets : s.wallets ≠ [])
    {task : Nat} {shares : List Nat}
    (hdraws : Drawn sources s.scenario s.wallets.length task shares) :
    exists s', s.runTasks sources task shares = (.ok (), s') ∧
      Relation.ReflTransGen (Step providers) (workers sources task shares, s) ([], s') := by
  induction shares generalizing s task with
  | nil =>
      exact ⟨s, rfl, Relation.ReflTransGen.refl⟩
  | cons share rest ih =>
      rcases exists_work providers hwallets (hdraws 0 share rfl) .empty
        (workers sources (task + 1) rest) with ⟨m, d, source', hwork, hsteps⟩
      have hmore : Drawn sources s.scenario s.wallets.length (task + 1) rest := by
        intro i share' hshare'
        have hnext := hdraws (i + 1) share' hshare'
        rwa [Nat.add_comm i, ← Nat.add_assoc] at hnext
      rcases ih (s := { s with desk := d, metrics := s.metrics.merge m }) hwallets hmore with
        ⟨s', hrun, hmoresteps⟩
      refine ⟨s', ?_, hsteps.trans (Relation.ReflTransGen.head ?_ hmoresteps)⟩
      · rw [runTasks]
        rw [Nat.add_zero] at hwork
        rw [hwork]
        exact hrun
      · exact Step.finish [] (workers sources (task + 1) rest)

theorem exists_run {sources : Nat -> σ} {s : Simulation} (hwallets : s.wallets ≠ [])
    {operations concurrency : Nat}
    (hdraws : Drawn sources s.scenario s.wallets.length 0 (shares operations concurrency)) :
    exists s', s.run sources operations concurrency = (.ok (), s') ∧
      Course providers sources s operations concurrency s' := by
  rw [run, if_neg (by simp [hwallets])]
  exact exists_runTasks providers hwallets hdraws

end Sequence

end Simulation

end CurrencyWallet
