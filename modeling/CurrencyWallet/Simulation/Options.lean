import CurrencyWallet.Power
import CurrencyWallet.Settings
import CurrencyWallet.Simulation.Scenario

/-!
# Options

What can be chosen on the command line of the simulator. Every option has a
name and takes a value, which is the next argument or stands behind an equals
sign.
-/

namespace CurrencyWallet

/-- The balance that wallets start with if nothing else is said. -/
def standardBalance : Decimal :=
  (Decimal.make? false 1000 0).getD .zero

/-- What to simulate. -/
structure SimulationOptions where
  users : Nat := 10
  operations : Nat := 10000
  concurrency : Nat := 16
  scenario : Scenario := .random
  initialBalance : Decimal := standardBalance
  /-- The seed of the random words, if it is to be the same every time. -/
  seed : Option UInt64 := none
deriving DecidableEq

/-- What is wrong with the command line. -/
inductive OptionError where
  | unknown (argument : String)
  | missingValue (option : String)
  | invalidValue (option value : String)
  | unknownScenario (name : String)
deriving DecidableEq

def OptionError.message : OptionError → String
  | unknown argument => s!"Unexpected argument: {argument}"
  | missingValue option => s!"A value is required for {option}"
  | invalidValue option value => s!"Invalid value for {option}: {value}"
  | unknownScenario name => Scenario.unknownName name

namespace SimulationOptions

def withNat (option value : String) (set : Nat → SimulationOptions) :
    Except OptionError SimulationOptions :=
  match Settings.readNat? (2 ^ (64 : Nat)) value with
  | some n => .ok (set n)
  | none => .error (.invalidValue option value)

def set (o : SimulationOptions) (option value : String) : Except OptionError SimulationOptions :=
  if option = "--users" ∨ option = "-u" then withNat option value ({ o with users := · })
  else if option = "--operations" ∨ option = "-o" then
    withNat option value ({ o with operations := · })
  else if option = "--concurrency" ∨ option = "-c" then
    withNat option value ({ o with concurrency := · })
  else if option = "--scenario" ∨ option = "-s" then
    match Scenario.ofName? value with
    | some scenario => .ok { o with scenario := scenario }
    | none => .error (.unknownScenario value)
  else if option = "--initial-balance" then
    match Decimal.parse? value with
    | some balance => .ok { o with initialBalance := balance }
    | none => .error (.invalidValue option value)
  else if option = "--seed" then
    withNat option value (fun n => { o with seed := some (UInt64.ofNat n) })
  else .error (.unknown option)

/-- Splits an argument at its first equals sign, if it has one. -/
def splitArgument (argument : String) : String × Option String :=
  let cs := argument.toList
  match cs.dropWhile (· ≠ '=') with
  | _ :: value => (String.ofList (cs.takeWhile (· ≠ '=')), some (String.ofList value))
  | [] => (argument, none)

/-- Sets the options of a command line, from first to last. -/
def parse (o : SimulationOptions) : List String → Except OptionError SimulationOptions
  | [] => .ok o
  | argument :: rest =>
      match splitArgument argument, rest with
      | (option, some value), rest => do (← o.set option value).parse rest
      | (option, none), value :: rest => do (← o.set option value).parse rest
      | (option, none), [] => .error (.missingValue option)

end SimulationOptions

end CurrencyWallet
