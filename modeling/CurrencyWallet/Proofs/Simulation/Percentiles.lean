import CurrencyWallet.Proofs.Simulation.Merging
import Mathlib.Data.List.Sort

/-!
# Percentiles of the times that are kept

A percentile is read off the sorted times at one position. It is told here without sorting: by how
many of the times are below it and how many are not above it. There is one such time only.
-/

namespace CurrencyWallet

namespace Metrics

/-!
## Sorted times
-/

section Sorted

variable {l : List Nat} {P : Nat -> Bool}

/-- A property that the earlier inherit from the later holds of the first, as many as it counts. -/
theorem apply_getElem_iff_lt_countP (hP : l.Pairwise fun x y => P y -> P x) {i : Nat}
    (hi : i < l.length) : P l[i] <-> i < l.countP P := by
  induction l generalizing i with
  | nil =>
      exact absurd hi (Nat.not_lt_zero i)
  | cons x l ih =>
      rw [List.pairwise_cons] at hP
      by_cases hx : P x
      · rw [List.countP_cons_of_pos hx]
        cases i with
        | zero =>
            exact iff_of_true hx (Nat.zero_lt_succ _)
        | succ i =>
            rw [List.getElem_cons_succ, ih hP.2, Nat.add_lt_add_iff_right]
      · have hnone : forall y, y ∈ x :: l -> Not (P y) := by
          intro y hy hPy
          rcases List.mem_cons.mp hy with rfl | hy
          · exact hx hPy
          · exact hx (hP.1 y hy hPy)
        rw [List.countP_eq_zero.mpr hnone]
        exact iff_of_false (hnone _ (List.getElem_mem hi)) (Nat.not_lt_zero i)

variable {i : Nat}

theorem countP_lt_getElem_le (hl : l.Pairwise (· ≤ ·)) (hi : i < l.length) :
    l.countP (· < l[i]) ≤ i := by
  have hlower : l.Pairwise fun x y => decide (y < l[i]) -> decide (x < l[i]) := by
    refine hl.imp ?_
    intro x y hxy hy
    exact decide_eq_true (hxy.trans_lt (of_decide_eq_true hy))
  rw [← Nat.not_lt, ← apply_getElem_iff_lt_countP hlower hi, decide_eq_true_iff]
  exact Nat.lt_irrefl _

theorem lt_countP_le_getElem (hl : l.Pairwise (· ≤ ·)) (hi : i < l.length) :
    i < l.countP (· ≤ l[i]) := by
  have hlower : l.Pairwise fun x y => decide (y ≤ l[i]) -> decide (x ≤ l[i]) := by
    refine hl.imp ?_
    intro x y hxy hy
    exact decide_eq_true (hxy.trans (of_decide_eq_true hy))
  rw [← apply_getElem_iff_lt_countP hlower hi, decide_eq_true_iff]

end Sorted

/-!
## What a percentile is
-/

/-- This is one of the times, `percent` per cent of them at most are less, and more than that are
not greater, unless none is greater at all. -/
structure IsPercentile (samples : List Nat) (percent value : Nat) : Prop where
  mem : value ∈ samples
  below : 100 * samples.countP (· < value) ≤ samples.length * percent
  notAbove : samples.length * percent < 100 * samples.countP (· ≤ value) ∨
    samples.countP (· ≤ value) = samples.length

namespace IsPercentile

variable {samples samples' : List Nat} {p q v w : Nat}

theorem perm (h : IsPercentile samples p v) (hperm : samples.Perm samples') :
    IsPercentile samples' p v where
  mem := hperm.subset h.mem
  below := by
    rw [← hperm.countP_eq, ← hperm.length_eq]
    exact h.below
  notAbove := by
    rw [← hperm.countP_eq, ← hperm.length_eq]
    exact h.notAbove

theorem le (hv : IsPercentile samples p v) (hw : IsPercentile samples q w) (hpq : p ≤ q) :
    v ≤ w := by
  by_contra hlt
  rw [Nat.not_le] at hlt
  -- all that is up to `w` would be below `v`, and that is too little to be up to a percentile
  have hcount : samples.countP (· ≤ w) ≤ samples.countP (· < v) := by
    refine List.countP_mono_left ?_
    intro x _ hx
    exact decide_eq_true ((of_decide_eq_true hx).trans_lt hlt)
  have hpercent : samples.length * p ≤ samples.length * q := Nat.mul_le_mul_left _ hpq
  rcases hw.notAbove with hmore | hall
  · have hbelow := hv.below
    omega
  · have hnone := List.countP_eq_length.mp hall v hv.mem
    exact absurd (of_decide_eq_true hnone) (Nat.not_le.mpr hlt)

theorem unique (hv : IsPercentile samples p v) (hw : IsPercentile samples p w) : v = w :=
  Nat.le_antisymm (hv.le hw p.le_refl) (hw.le hv p.le_refl)

end IsPercentile

/-!
## What is read off
-/

section ReadOff

variable (m : Metrics) (p : Nat)

def rank : Nat :=
  min (m.samples.length * p / 100) (m.samples.length - 1)

variable {m}

theorem rank_lt (hne : m.samples ≠ []) : m.rank p < m.samples.mergeSort.length := by
  have hpos : 0 < m.samples.length := List.length_pos_of_ne_nil hne
  rw [List.length_mergeSort, rank]
  omega

theorem percentile_eq_getElem (hrank : m.rank p < m.samples.mergeSort.length) :
    m.percentile p = m.samples.mergeSort[m.rank p] := by
  have hposition : min (m.samples.mergeSort.length * p / 100) (m.samples.mergeSort.length - 1) =
      m.rank p := by
    rw [List.length_mergeSort, rank]
  rw [percentile, hposition, List.getElem?_eq_getElem hrank, Option.getD_some]

theorem isPercentile_percentile (hne : m.samples ≠ []) :
    IsPercentile m.samples p (m.percentile p) := by
  have hperm : m.samples.mergeSort.Perm m.samples := List.mergeSort_perm _ _
  have hsorted : m.samples.mergeSort.Pairwise (· ≤ ·) := List.pairwise_mergeSort' _ _
  have hrank : m.rank p < m.samples.mergeSort.length := rank_lt p hne
  have hbelow := countP_lt_getElem_le hsorted hrank
  have hnotAbove := lt_countP_le_getElem hsorted hrank
  rw [percentile_eq_getElem p hrank]
  refine IsPercentile.perm ⟨List.getElem_mem hrank, ?_, ?_⟩ hperm
  · rw [hperm.length_eq]
    have hfloor : m.rank p ≤ m.samples.length * p / 100 := Nat.min_le_left _ _
    omega
  · rw [hperm.length_eq]
    have hpos : 0 < m.samples.length := List.length_pos_of_ne_nil hne
    have hcount := (List.countP_le_length (p := (· ≤ m.samples.mergeSort[m.rank p]))).trans_eq
      hperm.length_eq
    rcases Nat.le_total (m.samples.length * p / 100) (m.samples.length - 1) with hin | hout
    · have hexact : m.rank p = m.samples.length * p / 100 := Nat.min_eq_left hin
      left
      omega
    · have hlast : m.rank p = m.samples.length - 1 := Nat.min_eq_right hout
      right
      omega

theorem percentile_eq_of_perm {m' : Metrics} (hperm : m'.samples.Perm m.samples)
    (hne : m.samples ≠ []) : m'.percentile p = m.percentile p := by
  have hne' : m'.samples ≠ [] := by
    intro hnil
    rw [hnil] at hperm
    exact hne hperm.nil_eq.symm
  exact ((isPercentile_percentile p hne').perm hperm).unique (isPercentile_percentile p hne)

theorem percentile_mono (hne : m.samples ≠ []) {p q : Nat} (hpq : p ≤ q) :
    m.percentile p ≤ m.percentile q :=
  (isPercentile_percentile p hne).le (isPercentile_percentile q hne) hpq

end ReadOff

/-!
## Metrics as they come about
-/

inductive Reachable : Metrics -> Prop where
  | empty : Reachable empty
  | record {m : Metrics} (h : Reachable m) (o : Outcome) (microseconds : Nat) :
      Reachable (m.record o microseconds)
  | merge {m other : Metrics} (h : Reachable m) (hother : Reachable other) :
      Reachable (m.merge other)

theorem Reachable.exists_ofEntries {m : Metrics} (h : m.Reachable) :
    exists entries, m = ofEntries entries := by
  induction h with
  | empty =>
      exact ⟨[], rfl⟩
  | record h o microseconds ih =>
      obtain ⟨entries, rfl⟩ := ih
      refine ⟨entries ++ [(o, microseconds)], ?_⟩
      rw [ofEntries, ofEntries, recordAll_append, recordAll_cons]
      rfl
  | merge h hother ih ihother =>
      obtain ⟨entries, rfl⟩ := ih
      obtain ⟨more, rfl⟩ := ihother
      exact ⟨entries ++ more, (ofEntries_append entries more).symm⟩

theorem Reachable.length_samples_le {m : Metrics} (h : m.Reachable) :
    m.samples.length ≤ capacity := by
  obtain ⟨entries, rfl⟩ := h.exists_ofEntries
  exact length_samples_ofEntries_le entries

/-- The percentile of what has been recorded and merged in any way is read at a position that
there is, and computing that position takes small numbers only. It is the one time that is told by
the numbers of those below and of those not above. -/
theorem percentile_of_reachable {m : Metrics} {p : Nat} (hm : m.Reachable)
    (hne : m.samples ≠ []) (hp : p ≤ 100) :
    (m.samples.length * p ≤ 100 * capacity ∧
        exists h : min (m.samples.length * p / 100) (m.samples.length - 1) <
            m.samples.mergeSort.length,
          m.percentile p = m.samples.mergeSort[
            min (m.samples.length * p / 100) (m.samples.length - 1)]) ∧
      IsPercentile m.samples p (m.percentile p) ∧
      (forall v, IsPercentile m.samples p v -> v = m.percentile p) ∧
      (forall m' : Metrics, m'.samples.Perm m.samples -> m'.percentile p = m.percentile p) ∧
      (forall q, p ≤ q -> m.percentile p ≤ m.percentile q) ∧
      m.percentile 50 ≤ m.percentile 99 ∧
      m.samples.min hne ≤ m.percentile p ∧
      m.percentile p ≤ m.samples.max hne := by
  have his : IsPercentile m.samples p (m.percentile p) := isPercentile_percentile p hne
  have hsmall : m.samples.length * p ≤ 100 * capacity := by
    rw [Nat.mul_comm 100]
    exact Nat.mul_le_mul hm.length_samples_le hp
  have hrank : m.rank p < m.samples.mergeSort.length := rank_lt p hne
  refine ⟨⟨hsmall, hrank, percentile_eq_getElem p hrank⟩, his, ?_, ?_, ?_, ?_, ?_, ?_⟩
  · intro v hv
    exact hv.unique his
  · intro m' hperm
    exact percentile_eq_of_perm p hperm hne
  · intro q hpq
    exact percentile_mono hne hpq
  · exact percentile_mono hne (by decide)
  · exact List.min_le_of_mem his.mem
  · exact List.le_max_of_mem his.mem

theorem percentile_of_three_times :
    let m := ((empty.record .success 30).record .rejected 10).merge (empty.record .failed 20)
    m.Reachable ∧ m.samples ≠ [] ∧ m.percentile 50 = 20 ∧ m.percentile 99 = 30 := by
  intro m
  have hm : m.Reachable :=
    ((Reachable.empty.record .success 30).record .rejected 10).merge
      (Reachable.empty.record .failed 20)
  have hsamples : m.samples = [30, 10, 20] := by
    decide
  have hne : m.samples ≠ [] := by
    rw [hsamples]
    decide
  obtain ⟨-, -, hmedian, -⟩ := percentile_of_reachable hm hne (p := 50) (by decide)
  obtain ⟨-, -, hlast, -⟩ := percentile_of_reachable hm hne (p := 99) (by decide)
  rw [hsamples] at hmedian hlast
  refine ⟨hm, hne, (hmedian 20 ?_).symm, (hlast 30 ?_).symm⟩
  · constructor <;> decide
  · constructor <;> decide

end Metrics

end CurrencyWallet
