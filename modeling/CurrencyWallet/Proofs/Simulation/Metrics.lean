import CurrencyWallet.Simulation.Metrics

/-!
# What metrics count

Every operation that is recorded is counted once, by how it ended, and what others have recorded
is added to the counts.
-/

namespace CurrencyWallet

namespace Metrics

def counted (m : Metrics) : Outcome -> Nat
  | .success => m.successful
  | .rejected => m.rejected
  | .failed => m.failed

theorem counted_empty (o : Outcome) : empty.counted o = 0 := by
  cases o <;> rfl

section Counting

variable (m other : Metrics) (o : Outcome) (microseconds : Nat)

theorem total_record : (m.record o microseconds).total = m.total + 1 := by
  cases o <;> rfl

theorem counted_record (o' : Outcome) :
    (m.record o microseconds).counted o' = m.counted o' + if o' = o then 1 else 0 := by
  cases o <;> cases o' <;> rfl

theorem total_merge : (m.merge other).total = m.total + other.total := by
  rw [merge]

theorem counted_merge : (m.merge other).counted o = m.counted o + other.counted o := by
  cases o <;> rfl

end Counting

end Metrics

end CurrencyWallet
