import CurrencyWallet.Currency
import CurrencyWallet.Decimal.Basic
import CurrencyWallet.Random.Draw

/-!
# Scenarios

What a simulation does with the wallets: either random deposits, withdrawals and
exchanges on all of them, or withdrawals from one wallet until it is empty.
-/

namespace CurrencyWallet

/-- One thing that is done to a wallet. -/
inductive Operation where
  | deposit (currency : Currency) (amount : Decimal)
  | withdraw (currency : Currency) (amount : Decimal)
  | exchange (source target : Currency) (amount : Decimal)
deriving DecidableEq

/-- What a simulation does. -/
inductive Scenario where
  /-- Random operations on all wallets. -/
  | random
  /-- Withdrawals of one amount from the first wallet. -/
  | contention
deriving DecidableEq

namespace Scenario

def name : Scenario → String
  | random => "random"
  | contention => "contention"

def ofName? : String → Option Scenario
  | "random" => some random
  | "contention" => some contention
  | _ => none

/-- What is said about a name that no scenario has. -/
def unknownName (name : String) : String :=
  s!"Unknown scenario: {name}"

def description : Scenario → String
  | random => "Mixed deposits, withdrawals and exchanges across all wallets"
  | contention => "Concurrent withdrawals racing on a single wallet"

/-- What every withdrawal of the contention takes. -/
def contentionAmount : Decimal where
  negative := false
  mantissa := 1000
  scale := 2

def ofCents (n : Nat) : Decimal :=
  (Decimal.ofParts? false n 2).getD .zero

variable {σ : Type} [WordSource σ]

def drawCurrency? (s : σ) : Option (Currency × σ) :=
  match drawBelow? .double Currency.all.length s with
  | some (n, s) => Currency.all[n]?.map (·, s)
  | none => none

theorem remaining_lt_of_drawCurrency? {s s' : σ} {c : Currency}
    (h : drawCurrency? s = some (c, s')) :
    WordSource.remaining s' < WordSource.remaining s := by
  unfold drawCurrency? at h
  split at h
  · next hn =>
      obtain ⟨a, ha, he⟩ := Option.map_eq_some_iff.1 h
      simp only [Prod.mk.injEq] at he
      exact he.2 ▸ remaining_lt_of_drawBelow? hn
  · simp at h

/-- A random currency other than this one, by drawing until it is another. -/
def drawOther? (currency : Currency) (s : σ) : Option (Currency × σ) :=
  match _h : drawCurrency? s with
  | none => none
  | some (other, s') =>
      if other = currency then drawOther? currency s' else some (other, s')
termination_by WordSource.remaining s
decreasing_by exact remaining_lt_of_drawCurrency? (by assumption)

/-- A random operation with this currency and amount. -/
def drawOperation? (currency : Currency) (amount : Decimal) (s : σ) :
    Option (Operation × σ) := do
  let (kind, s) ← drawBelow? .single 3 s
  match kind with
  | 0 => return (.deposit currency amount, s)
  | 1 => return (.withdraw currency amount, s)
  | _ =>
      let (target, s) ← drawOther? currency s
      return (.exchange currency target amount, s)

/-- The next operation of a scenario and the number of the wallet for it. A random
operation needs random words and at least one wallet. -/
def nextOperation? (scenario : Scenario) (wallets : Nat) (s : σ) :
    Option ((Nat × Operation) × σ) :=
  match scenario with
  | contention => some ((0, .withdraw .usd contentionAmount), s)
  | random => do
      let (wallet, s) ← drawBelow? .double wallets s
      let (cents, s) ← drawBelow? .double 99999 s
      let (currency, s) ← drawCurrency? s
      let (operation, s) ← drawOperation? currency (ofCents (cents + 1)) s
      return ((wallet, operation), s)

def nextOperations? (scenario : Scenario) (wallets : Nat) (s : σ) :
    Nat → Option (List (Nat × Operation) × σ)
  | 0 => some ([], s)
  | n + 1 => do
      let (first, s) ← scenario.nextOperation? wallets s
      let (rest, s) ← scenario.nextOperations? wallets s n
      return (first :: rest, s)

end Scenario

end CurrencyWallet
