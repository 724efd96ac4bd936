import CurrencyWallet.Service.Desk
import CurrencyWallet.Simulation.Metrics
import CurrencyWallet.Simulation.Scenario
import CurrencyWallet.Text.Padded

/-!
# Simulations

A simulation registers users with equal balances, has several tasks carry out the
operations of a scenario, and then checks the books: no balance may be below zero, and
when all tasks have withdrawn from one wallet, it must have lost exactly what they got.

The tasks take their turns one after the other. Each has a source of random words of its
own.
-/

namespace CurrencyWallet

/-- Why a simulation does not go on, or what is wrong with the books at its end. -/
inductive SimulationError where
  | service (error : ServiceError)
  | noWallets
  | noOperation
  | wentNegative (user : UserId) (balances : Balances)
  /-- The wallet of the contention does not hold what it should. -/
  | unreconciled (held expected : Decimal)
  /-- What the wallet of the contention should hold is no decimal. -/
  | unaccountable
deriving DecidableEq

/-- The contents of a wallet with the names of the balances. -/
def Balances.describe (b : Balances) : String :=
  s!"WalletSnapshot \x7b balance_rub: {b.rub}, balance_usd: {b.usd}, " ++
    s!"balance_eur: {b.eur} \x7d"

def SimulationError.message : SimulationError → String
  | service e => e.message
  | noWallets => "Simulation has no wallets"
  | noOperation => "Simulation has no random words left"
  | wentNegative user b => s!"Wallet {user} went negative: {b.describe}"
  | unreconciled held expected => s!"Contended wallet holds {held} USD, expected {expected}"
  | unaccountable => "Contended wallet has no expected balance"

def Outcome.ofResult : Except ServiceError Unit → Outcome
  | .ok () => .success
  | .error e =>
      match e.kind with
      | .validation => .rejected
      | .business => .rejected
      | .dependency => .failed
      | .internal => .failed

namespace Desk

def fund (d : Desk) (user : UserId) (amount : Decimal) :
    List Currency → Except ServiceError Unit × Desk
  | [] => (.ok (), d)
  | c :: cs =>
      match d.deposit user c.code amount with
      | (.ok _, d) => d.fund user amount cs
      | (.error e, d) => (.error e, d)

def perform (d : Desk) (user : UserId) : Operation → Except ServiceError Unit × Desk
  | .deposit currency amount =>
      let (result, d) := d.deposit user currency.code amount
      (result.map (fun _ => ()), d)
  | .withdraw currency amount =>
      let (result, d) := d.withdraw user currency.code amount
      (result.map (fun _ => ()), d)
  | .exchange source target amount =>
      let (result, d) := d.exchange none user source.code target.code amount
      (result.map (fun _ => ()), d)

end Desk

/-- A simulation under way. -/
structure Simulation where
  scenario : Scenario
  desk : Desk
  /-- The wallets to work on, in the order of registration. -/
  wallets : List UserId
  initialBalance : Decimal
  metrics : Metrics

namespace Simulation

def start (scenario : Scenario) (desk : Desk) : Simulation :=
  ⟨scenario, desk, [], .zero, .empty⟩

/-- The mark of a run, by which its users are told from those of other runs. -/
def mark (run : UserId) : String :=
  String.ofList (run.toChars.take 8)

def participant (run : UserId) (number : Nat) : NewUser where
  username := s!"sim-{mark run}-{Text.padded 5 number}"
  email := s!"sim-{mark run}-{Text.padded 5 number}@simulator.local"
  passwordHash := "unused"

/-- Registers a user and funds the wallet. Nothing is deposited when the balance is to
be zero. -/
def enrol (s : Simulation) (run : UserId) (number : Nat) (id : UserId) (balance : Decimal) :
    Except ServiceError Unit × Simulation :=
  match s.desk.register id (participant run number) with
  | (.error e, d) => (.error e, { s with desk := d })
  | (.ok user, d) =>
      match d.fund user balance (if balance.IsZero then [] else Currency.all) with
      | (.error e, d) => (.error e, { s with desk := d })
      | (.ok (), d) => (.ok (), { s with desk := d, wallets := s.wallets ++ [user] })

/-- Registers users under these ids, numbered from `number` on. -/
def enrolAll (s : Simulation) (run : UserId) (number : Nat) (balance : Decimal) :
    List UserId → Except ServiceError Unit × Simulation
  | [] => (.ok (), s)
  | id :: ids =>
      match s.enrol run number id balance with
      | (.error e, s) => (.error e, s)
      | (.ok (), s) => s.enrolAll run (number + 1) balance ids

/-- Registers users under these ids, all with the same balance in every currency. -/
def populate (s : Simulation) (ids : List UserId) (balance : Decimal)
    (run : UserId := default) : Except SimulationError Unit × Simulation :=
  match s.enrolAll run 0 balance ids with
  | (.error e, s) => (.error (.service e), s)
  | (.ok (), s) => (.ok (), { s with initialBalance := balance })

/-- How many operations each task carries out. The first tasks share what is left over
by the division. -/
def shares (operations concurrency : Nat) : List Nat :=
  let tasks := max concurrency 1
  (List.range tasks).map
    (fun task => operations / tasks + if task < operations % tasks then 1 else 0)

variable {σ : Type} [WordSource σ]

/-- The next operation of a scenario and the wallet for it. -/
def nextTurn? (scenario : Scenario) (wallets : List UserId) (source : σ) :
    Option (UserId × Operation × σ) := do
  let ((number, operation), source) ← scenario.nextOperation? wallets.length source
  let user ← wallets[number]?
  return (user, operation, source)

/-- Carries out so many operations one after the other and records how they end. -/
def work (scenario : Scenario) (wallets : List UserId) :
    Nat → σ → Desk → Metrics → Except SimulationError Metrics × Desk
  | 0, _, d, m => (.ok m, d)
  | n + 1, source, d, m =>
      match nextTurn? scenario wallets source with
      | none => (.error .noOperation, d)
      | some (user, operation, source) =>
          let (result, after) := d.perform user operation
          let microseconds := (after.quotes.clock - d.quotes.clock) * 1000
          work scenario wallets n source after (m.record (.ofResult result) microseconds)

/-- Has one task after the other carry out its share, numbered from `task` on. -/
def runTasks (sources : Nat → σ) (s : Simulation) (task : Nat) :
    List Nat → Except SimulationError Unit × Simulation
  | [] => (.ok (), s)
  | share :: rest =>
      match work s.scenario s.wallets share (sources task) s.desk .empty with
      | (.error e, d) => (.error e, { s with desk := d })
      | (.ok m, d) =>
          { s with desk := d, metrics := s.metrics.merge m }.runTasks sources (task + 1) rest

/-- Carries out so many operations, shared by so many tasks but at least one. -/
def run (sources : Nat → σ) (s : Simulation) (operations concurrency : Nat) :
    Except SimulationError Unit × Simulation :=
  if s.wallets.isEmpty then (.error .noWallets, s)
  else s.runTasks sources 0 (shares operations concurrency)

/-- A wallet must not have a balance below zero. -/
def checkWallet (s : Simulation) (user : UserId) : Except SimulationError Unit := do
  let b ← (s.desk.balances user).mapError .service
  if b.NonNegative then return ()
  throw (.wentNegative user b)

def expectedBalance? (s : Simulation) : Option Decimal := do
  let taken ← (← Decimal.make? false s.metrics.successful 0).mul? Scenario.contentionAmount
  s.initialBalance.sub? taken

/-- A wallet must hold what is left of its balance after the withdrawals that succeeded. -/
def checkContention (s : Simulation) (user : UserId) : Except SimulationError Unit := do
  let b ← (s.desk.balances user).mapError .service
  match s.expectedBalance? with
  | none => throw .unaccountable
  | some expected =>
      if b.usd.SameValue expected then return ()
      throw (.unreconciled b.usd expected)

def verify (s : Simulation) : Except SimulationError Unit := do
  s.wallets.forM s.checkWallet
  match s.scenario, s.wallets.head? with
  | .contention, some user => s.checkContention user
  | _, _ => return ()

end Simulation

end CurrencyWallet
