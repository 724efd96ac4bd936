import CurrencyWallet.Power

/-!
# Metrics

How the operations of a simulation ended and how long they took. All operations are
counted, but times are kept for the latest ten thousand only.
-/

namespace CurrencyWallet

/-- How an operation ended. -/
inductive Outcome where
  | success
  | rejected
  /-- The books or the rates are out of order. -/
  | failed
deriving DecidableEq

/-- What is known about the operations of a simulation. -/
structure Metrics where
  total : Nat
  successful : Nat
  rejected : Nat
  failed : Nat
  /-- The times that are kept, in microseconds, the latest last. -/
  samples : List Nat
deriving DecidableEq

namespace Metrics

def capacity : Nat := 10000

def empty : Metrics :=
  ⟨0, 0, 0, 0, []⟩

/-- Adds a time to those that are kept. If there is no room for it, the oldest is given up first. -/
def enqueue (samples : List Nat) (microseconds : Nat) : List Nat :=
  (if capacity ≤ samples.length then samples.tail else samples) ++ [microseconds]

def count (m : Metrics) (o : Outcome) : Metrics :=
  let m := { m with total := m.total + 1 }
  match o with
  | .success => { m with successful := m.successful + 1 }
  | .rejected => { m with rejected := m.rejected + 1 }
  | .failed => { m with failed := m.failed + 1 }

/-- Records how an operation ended and how many microseconds it took. -/
def record (m : Metrics) (o : Outcome) (microseconds : Nat) : Metrics :=
  { m.count o with samples := enqueue m.samples microseconds }

/-- Records operations in order. -/
def recordAll (m : Metrics) (entries : List (Outcome × Nat)) : Metrics :=
  entries.foldl (fun m e => m.record e.1 e.2) m

/-- Adds what others have recorded, as if it had happened afterwards. -/
def merge (m other : Metrics) : Metrics where
  total := m.total + other.total
  successful := m.successful + other.successful
  rejected := m.rejected + other.rejected
  failed := m.failed + other.failed
  samples := other.samples.foldl enqueue m.samples

/-- The average of the times that are kept, or zero if there are none. The sum
is kept in 64 bits. -/
def average (m : Metrics) : Nat :=
  m.samples.foldl (· + ·) 0 % 2 ^ (64 : Nat) / m.samples.length

/-- The time below which `percent` per cent of the times are that are kept, or zero if
there are none. -/
def percentile (m : Metrics) (percent : Nat) : Nat :=
  let sorted := m.samples.mergeSort
  (sorted[min (sorted.length * percent / 100) (sorted.length - 1)]?).getD 0

/-- A time in nanoseconds as seconds. -/
def seconds (nanoseconds : Nat) : Float :=
  Float.ofNat (nanoseconds / 10 ^ (9 : Nat)) +
    Float.ofNat (nanoseconds % 10 ^ (9 : Nat)) / Float.ofNat (10 ^ (9 : Nat))

/-- The operations per second in a time in nanoseconds, or zero if no time has passed. -/
def throughput (m : Metrics) (nanoseconds : Nat) : Float :=
  if nanoseconds = 0 then 0 else Float.ofNat m.total / seconds nanoseconds

end Metrics

end CurrencyWallet
