import CurrencyWallet.Proofs.Simulation.Metrics
import Mathlib.Data.List.DropRight

/-!
# Metrics that are merged

Every task records for itself, and in the end what the tasks have recorded is merged. It is as if
all had been recorded in one go: each operation is counted once, and the latest times are kept,
whoever has given up the older ones and when.
-/

namespace CurrencyWallet

namespace Metrics

/-!
## The latest times
-/

def latest (samples : List Nat) : List Nat :=
  samples.drop (samples.length - capacity)

theorem latest_of_length_le {samples : List Nat} (h : samples.length ≤ capacity) :
    latest samples = samples := by
  rw [latest, Nat.sub_eq_zero_of_le h, List.drop_zero]

theorem length_latest (samples : List Nat) :
    (latest samples).length = min samples.length capacity := by
  rw [latest, List.length_drop]
  omega

theorem length_latest_le (samples : List Nat) : (latest samples).length ≤ capacity := by
  rw [length_latest]
  exact Nat.min_le_right _ _

theorem latest_eq_rtake (samples : List Nat) :
    latest samples = samples.rtake (min samples.length capacity) := by
  have hdrop : samples.length - min samples.length capacity = samples.length - capacity := by
    omega
  rw [List.rtake, hdrop, latest]

theorem latest_latest_append (a b : List Nat) : latest (latest a ++ b) = latest (a ++ b) := by
  unfold latest
  generalize capacity = k
  rw [List.length_append, List.length_append, List.length_drop, List.drop_append, List.drop_append,
    List.drop_drop, List.length_drop]
  congr 1
  · congr 1
    omega
  · congr 1
    omega

/-- What has been given up by another is given up here as well. -/
theorem latest_append_latest (a b : List Nat) : latest (a ++ latest b) = latest (a ++ b) := by
  rcases Nat.le_total b.length capacity with hfew | hmany
  · rw [latest_of_length_le hfew]
  · have hlength : (latest b).length = capacity := by
      rw [length_latest, Nat.min_eq_right hmany]
    have hleft : latest (a ++ latest b) = latest b := by
      rw [latest, List.length_append, hlength, Nat.add_sub_cancel, List.drop_left]
    have hdrop : (a ++ b).length - capacity = a.length + (b.length - capacity) := by
      rw [List.length_append, Nat.add_sub_assoc hmany]
    rw [hleft, latest, latest, hdrop, List.drop_length_add_append]

/-!
## The queue of times

What is left after times have gone through the queue one after the other are the latest of all.
-/

theorem latest_append_singleton {samples : List Nat} (h : samples.length ≤ capacity)
    (microseconds : Nat) : latest (samples ++ [microseconds]) = enqueue samples microseconds := by
  unfold enqueue
  split
  next hfull =>
    have hone : (samples ++ [microseconds]).length - capacity = 1 := by
      rw [List.length_append, List.length_singleton]
      omega
    have hne : samples ≠ [] := by
      rintro rfl
      exact absurd hfull (by decide)
    rw [latest, hone, List.drop_one, List.tail_append_of_ne_nil hne]
  next hroom =>
    apply latest_of_length_le
    rw [List.length_append, List.length_singleton]
    omega

theorem latest_append_eq_foldl {samples : List Nat} (h : samples.length ≤ capacity)
    (more : List Nat) : latest (samples ++ more) = more.foldl enqueue samples := by
  induction more generalizing samples with
  | nil =>
      rw [List.append_nil, latest_of_length_le h, List.foldl_nil]
  | cons microseconds more ih =>
      rw [List.append_cons, ← latest_latest_append, ih (length_latest_le _),
        latest_append_singleton h, List.foldl_cons]

theorem length_enqueue_le {samples : List Nat} (h : samples.length ≤ capacity)
    (microseconds : Nat) : (enqueue samples microseconds).length ≤ capacity := by
  rw [← latest_append_singleton h]
  exact length_latest_le _

theorem length_foldl_enqueue_le {samples : List Nat} (h : samples.length ≤ capacity)
    (more : List Nat) : (more.foldl enqueue samples).length ≤ capacity := by
  rw [← latest_append_eq_foldl h]
  exact length_latest_le _

/-- It is the same to put a time into a queue before it goes through another one or after. -/
theorem foldl_enqueue_enqueue {a b : List Nat} (ha : a.length ≤ capacity)
    (hb : b.length ≤ capacity) (microseconds : Nat) :
    (enqueue b microseconds).foldl enqueue a = enqueue (b.foldl enqueue a) microseconds := by
  rw [← latest_append_singleton hb, ← latest_append_eq_foldl ha, latest_append_latest,
    ← latest_append_singleton (length_foldl_enqueue_le ha b), ← latest_append_eq_foldl ha,
    latest_latest_append, List.append_assoc]

/-!
## Recording and merging
-/

theorem ext_counted {m m' : Metrics} (htotal : m.total = m'.total)
    (hcounted : forall o, m.counted o = m'.counted o) (hsamples : m.samples = m'.samples) :
    m = m' := by
  have hsuccessful : m.successful = m'.successful := hcounted .success
  have hrejected : m.rejected = m'.rejected := hcounted .rejected
  have hfailed : m.failed = m'.failed := hcounted .failed
  cases m
  cases m'
  congr 1

theorem merge_empty (m : Metrics) : m.merge empty = m := by
  apply ext_counted
  · rw [total_merge, empty, Nat.add_zero]
  · intro o
    rw [counted_merge, counted_empty, Nat.add_zero]
  · rw [merge, empty, List.foldl_nil]

section Merging

variable {m other : Metrics} (h : m.samples.length ≤ capacity)

include h

theorem length_samples_record_le (o : Outcome) (microseconds : Nat) :
    (m.record o microseconds).samples.length ≤ capacity := by
  rw [record]
  exact length_enqueue_le h microseconds

theorem merge_record (hother : other.samples.length ≤ capacity) (o : Outcome)
    (microseconds : Nat) :
    m.merge (other.record o microseconds) = (m.merge other).record o microseconds := by
  apply ext_counted
  · rw [total_merge, total_record, total_record, total_merge, Nat.add_assoc]
  · intro o'
    rw [counted_merge, counted_record, counted_record, counted_merge, Nat.add_assoc]
  · exact foldl_enqueue_enqueue h hother microseconds

end Merging

/-!
## Recording one after the other
-/

/-- What a task has recorded that has seen these operations. -/
def ofEntries (entries : List (Outcome × Nat)) : Metrics :=
  empty.recordAll entries

section Entries

variable (m other : Metrics) (entries : List (Outcome × Nat))

theorem recordAll_cons (e : Outcome × Nat) :
    m.recordAll (e :: entries) = (m.record e.1 e.2).recordAll entries := by
  rw [recordAll, List.foldl_cons, recordAll]

theorem recordAll_append (more : List (Outcome × Nat)) :
    m.recordAll (entries ++ more) = (m.recordAll entries).recordAll more := by
  rw [recordAll, List.foldl_append, recordAll, recordAll]

theorem total_recordAll : (m.recordAll entries).total = m.total + entries.length := by
  induction entries generalizing m with
  | nil =>
      rfl
  | cons e entries ih =>
      rw [recordAll_cons, ih, total_record, List.length_cons, Nat.add_assoc,
        Nat.add_comm 1 entries.length]

theorem counted_recordAll (o : Outcome) :
    (m.recordAll entries).counted o = m.counted o + (entries.map Prod.fst).count o := by
  induction entries generalizing m with
  | nil =>
      rfl
  | cons e entries ih =>
      rw [recordAll_cons, ih, counted_record, List.map_cons, List.count_cons]
      split
      next hend =>
        rw [hend, beq_self_eq_true, if_pos rfl]
        omega
      next hend =>
        rw [if_neg (by simpa using Ne.symm hend)]
        omega

variable {m other}

theorem merge_recordAll (h : m.samples.length ≤ capacity)
    (hother : other.samples.length ≤ capacity) :
    m.merge (other.recordAll entries) = (m.merge other).recordAll entries := by
  induction entries generalizing other with
  | nil =>
      rfl
  | cons e entries ih =>
      rw [recordAll_cons, ih (length_samples_record_le hother e.1 e.2), merge_record h hother,
        recordAll_cons]

theorem samples_recordAll (h : m.samples.length ≤ capacity) :
    (m.recordAll entries).samples = latest (m.samples ++ entries.map Prod.snd) := by
  induction entries generalizing m with
  | nil =>
      rw [recordAll, List.foldl_nil, List.map_nil, List.append_nil, latest_of_length_le h]
  | cons e entries ih =>
      rw [recordAll_cons, ih (length_samples_record_le h e.1 e.2), record,
        ← latest_append_singleton h, latest_latest_append, List.map_cons, List.append_assoc,
        List.singleton_append]

theorem length_samples_empty_le : empty.samples.length ≤ capacity :=
  Nat.zero_le _

theorem samples_ofEntries : (ofEntries entries).samples = latest (entries.map Prod.snd) := by
  rw [ofEntries, samples_recordAll entries length_samples_empty_le, empty, List.nil_append]

theorem length_samples_ofEntries_le : (ofEntries entries).samples.length ≤ capacity := by
  rw [samples_ofEntries]
  exact length_latest_le _

theorem counted_ofEntries (o : Outcome) :
    (ofEntries entries).counted o = (entries.map Prod.fst).count o := by
  rw [ofEntries, counted_recordAll, counted_empty, Nat.zero_add]

theorem total_ofEntries : (ofEntries entries).total = entries.length := by
  rw [ofEntries, total_recordAll, empty, Nat.zero_add]

theorem ofEntries_append (more : List (Outcome × Nat)) :
    ofEntries (entries ++ more) = (ofEntries entries).merge (ofEntries more) := by
  have hleft : (ofEntries entries).samples.length ≤ capacity := length_samples_ofEntries_le entries
  rw [ofEntries.eq_1 more, merge_recordAll more hleft length_samples_empty_le, merge_empty,
    ofEntries, recordAll_append, ofEntries]

theorem empty_merge_ofEntries : empty.merge (ofEntries entries) = ofEntries entries := by
  rw [ofEntries, merge_recordAll entries length_samples_empty_le length_samples_empty_le,
    merge_empty]

end Entries

/-!
## What has been recorded
-/

def Balanced (m : Metrics) : Prop :=
  m.total = m.successful + m.rejected + m.failed

theorem balanced_empty : empty.Balanced :=
  rfl

theorem Balanced.record {m : Metrics} (h : m.Balanced) (o : Outcome) (microseconds : Nat) :
    (m.record o microseconds).Balanced := by
  unfold Balanced at *
  cases o <;> (simp only [Metrics.record, count]; omega)

theorem Balanced.recordAll {m : Metrics} (h : m.Balanced) (entries : List (Outcome × Nat)) :
    (m.recordAll entries).Balanced := by
  induction entries generalizing m with
  | nil =>
      exact h
  | cons e entries ih =>
      rw [recordAll_cons]
      exact ih (h.record e.1 e.2)

structure Tells (m : Metrics) (entries : List (Outcome × Nat)) : Prop where
  total : m.total = entries.length
  balanced : m.Balanced
  counted : forall o, m.counted o = (entries.map Prod.fst).count o
  samples : m.samples = (entries.map Prod.snd).rtake (min entries.length capacity)

theorem ofEntries_tells (entries : List (Outcome × Nat)) : (ofEntries entries).Tells entries where
  total := total_ofEntries entries
  balanced := balanced_empty.recordAll entries
  counted := counted_ofEntries entries
  samples := by
    rw [samples_ofEntries, latest_eq_rtake, List.length_map]

/-- Merging what has been recorded apart is recording it in one go, so it does not matter which
neighbours are merged first. The counts add up and fit into 64 bits, and the times that are kept are
the latest. -/
theorem merge_ofEntries {a b c : List (Outcome × Nat)} (h : (a ++ b ++ c).length < 2 ^ (64 : Nat)) :
    (ofEntries a).merge (ofEntries b) = ofEntries (a ++ b) ∧
      ((ofEntries a).merge (ofEntries b)).merge (ofEntries c) =
        (ofEntries a).merge ((ofEntries b).merge (ofEntries c)) ∧
      (ofEntries a).merge empty = ofEntries a ∧
      empty.merge (ofEntries a) = ofEntries a ∧
      (ofEntries (a ++ b ++ c)).Tells (a ++ b ++ c) ∧
      (ofEntries (a ++ b ++ c)).total < 2 ^ (64 : Nat) := by
  have hassoc : ((ofEntries a).merge (ofEntries b)).merge (ofEntries c) =
      (ofEntries a).merge ((ofEntries b).merge (ofEntries c)) := by
    rw [← ofEntries_append, ← ofEntries_append, List.append_assoc, ofEntries_append,
      ofEntries_append]
  have htotal : (ofEntries (a ++ b ++ c)).total < 2 ^ (64 : Nat) := by
    rw [total_ofEntries]
    exact h
  exact ⟨(ofEntries_append a b).symm, hassoc, merge_empty (ofEntries a),
    empty_merge_ofEntries a, ofEntries_tells (a ++ b ++ c), htotal⟩

theorem merge_ofEntries_beyond_capacity :
    let a := List.replicate 9999 (Outcome.success, 1)
    let b := [(Outcome.rejected, 2), (Outcome.success, 3)]
    let c := [(Outcome.failed, 4), (Outcome.success, 5)]
    (a ++ b ++ c).length < 2 ^ (64 : Nat) ∧
      ((ofEntries a).merge (ofEntries b)).merge (ofEntries c) =
        (ofEntries a).merge ((ofEntries b).merge (ofEntries c)) ∧
      (ofEntries (a ++ b ++ c)).total = 10003 ∧
      (ofEntries (a ++ b ++ c)).samples = List.replicate 9996 1 ++ [2, 3, 4, 5] := by
  intro a b c
  have hlength : (a ++ b ++ c).length = 10003 := by
    have ha : a.length = 9999 := List.length_replicate
    have hb : b.length = 2 := rfl
    have hc : c.length = 2 := rfl
    rw [List.length_append, List.length_append, ha, hb, hc]
  have hfits : (a ++ b ++ c).length < 2 ^ (64 : Nat) := by
    omega
  obtain ⟨-, hassoc, -, -, htells, -⟩ := merge_ofEntries hfits
  refine ⟨hfits, hassoc, htells.total.trans hlength, ?_⟩
  have htimes : (a ++ b ++ c).map Prod.snd =
      List.replicate 3 1 ++ (List.replicate 9996 1 ++ [2, 3, 4, 5]) := by
    rw [← List.append_assoc, List.replicate_append_replicate]
    simp only [a, b, c, List.map_append, List.map_replicate, List.map_cons, List.map_nil,
      List.append_assoc, List.cons_append, List.nil_append]
  have hgiven : ((a ++ b ++ c).map Prod.snd).length - min 10003 capacity =
      (List.replicate 3 1).length := by
    rw [List.length_map, hlength, List.length_replicate, capacity]
    decide
  rw [htells.samples, hlength, List.rtake, hgiven, htimes, List.drop_left]

end Metrics

end CurrencyWallet
