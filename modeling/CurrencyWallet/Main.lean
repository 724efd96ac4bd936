import CurrencyWallet.Power
import CurrencyWallet.Random.ChaCha
import CurrencyWallet.Simulation.Basic
import CurrencyWallet.Simulation.Options
import CurrencyWallet.Simulation.Rates

/-!
# The simulator

Registers users, carries out operations at fixed rates, checks the books and
tells how it went.
-/

namespace CurrencyWallet

namespace Simulator

/-- Settings and options of a run, or what is wrong with them. -/
def configure (environment : String → Option String) (arguments : List String) :
    Except String (Settings × SimulationOptions) := do
  let settings := Settings.load environment
  settings.validate.mapError (fun e => s!"Configuration error: {e.message}")
  let options ← (SimulationOptions.parse {} arguments).mapError OptionError.message
  return (settings, options)

def prepare (settings : Settings) (o : SimulationOptions) :
    Except SimulationError Unit × Simulation :=
  let desk := Desk.start .empty settings.rates.cachePolicy ListedRates.fixed.provider
  (Simulation.start o.scenario desk).populate ((List.range o.users).map UserId.serial)
    o.initialBalance (UserId.serial o.users)

def execute (s : Simulation) (seed : UInt64) (o : SimulationOptions) :
    Except SimulationError Unit × Simulation :=
  s.run (fun task => ChaCha.Stream.ofSeed (seed + UInt64.ofNat task)) o.operations o.concurrency

/-- What is told about a run that took so many nanoseconds. -/
def summary (m : Metrics) (nanoseconds : Nat) : String :=
  s!"Simulation complete: total={m.total} successful={m.successful} rejected={m.rejected} " ++
    s!"failed={m.failed} avg_latency_us={m.average} p50_latency_us={m.percentile 50} " ++
    s!"p99_latency_us={m.percentile 99} throughput={m.throughput nanoseconds}"

def variableNames : List String :=
  ["DATABASE_URL", "DATABASE_MAX_CONNECTIONS", "DATABASE_ACQUIRE_TIMEOUT_SECS",
    "RATES_PROVIDER_ADDR", "RATES_CACHE_TTL_SECS", "RATES_TIMEOUT_MS", "REQUEST_TIMEOUT_MS",
    "LOG_LEVEL", "LOG_JSON"]

def stop (message : String) : IO UInt32 := do
  IO.eprintln s!"Error: {message}"
  return 1

def start (arguments : List String) : IO UInt32 := do
  let values ← variableNames.mapM (fun name => do return (name, ← IO.getEnv name))
  match configure (fun name => (values.lookup name).join) arguments with
  | .error message => stop message
  | .ok (settings, options) =>
      match prepare settings options with
      | (.error e, _) => stop e.message
      | (.ok (), simulation) =>
          let seed ← match options.seed with
            | some seed => pure seed
            | none => do pure (UInt64.ofNat (← IO.rand 0 (2 ^ (62 : Nat))))
          let began ← IO.monoNanosNow
          let (result, simulation) := execute simulation seed options
          match result.bind (fun _ => simulation.verify) with
          | .error e => stop e.message
          | .ok () =>
              let ended ← IO.monoNanosNow
              IO.println (summary simulation.metrics (ended - began))
              return 0

end Simulator

end CurrencyWallet

def main (arguments : List String) : IO UInt32 :=
  CurrencyWallet.Simulator.start arguments
