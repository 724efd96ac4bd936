import CurrencyWallet.Directory
import Mathlib.Data.List.Perm.Basic

/-!
# The contents of a directory

A directory has as many entries as there are keys under which something is found, and its
values are what is found under some key.
-/

namespace CurrencyWallet

namespace Directory

variable {κ ν : Type} [DecidableEq κ]

theorem mem_keys_iff (m : Directory κ ν) (k : κ) : k ∈ m.keys <-> (m.get? k).isSome := by
  rw [← not_iff_not, Bool.not_eq_true, Option.isSome_eq_false_iff, Option.isNone_iff_eq_none, get?,
    List.lookup_eq_none_iff, keys, List.mem_map]
  constructor
  · intro hnone e he
    rw [bne_iff_ne]
    intro hk
    exact hnone ⟨e, he, hk.symm⟩
  · intro hnone hsome
    rcases hsome with ⟨e, he, hk⟩
    have hne := hnone e he
    rw [hk] at hne
    simp at hne

theorem size_insert_of_get?_eq_none {m : Directory κ ν} {k : κ} (h : m.get? k = none) (v : ν) :
    (m.insert k v).size = m.size + 1 := by
  have hnew : ¬ k ∈ m.entries.map Prod.fst := by
    intro hmem
    have hsome := (mem_keys_iff m k).mp hmem
    rw [h] at hsome
    cases hsome
  unfold insert size
  rw [dif_neg hnew]
  exact List.length_append

theorem size_eq_countP (m : Directory κ ν) {all : List κ} (hnodup : all.Nodup)
    (hall : forall k, (m.get? k).isSome -> k ∈ all) :
    m.size = all.countP (fun k => (m.get? k).isSome) := by
  have hperm : m.keys.Perm (all.filter (fun k => (m.get? k).isSome)) := by
    apply (List.perm_ext_iff_of_nodup m.nodup_keys (hnodup.filter _)).mpr
    intro k
    change k ∈ m.keys <-> _
    rw [mem_keys_iff, List.mem_filter]
    exact ⟨fun h => ⟨hall k h, h⟩, fun h => h.right⟩
  calc
    m.size = m.keys.length := (List.length_map Prod.fst).symm
    _ = (all.filter (fun k => (m.get? k).isSome)).length := hperm.length_eq
    _ = all.countP (fun k => (m.get? k).isSome) := List.countP_eq_length_filter.symm

/-!
## Values
-/

theorem lookup_eq_some_iff_of_nodup {l : List (κ × ν)} (h : (l.map Prod.fst).Nodup) (k : κ)
    (v : ν) : l.lookup k = some v <-> (k, v) ∈ l := by
  induction l with
  | nil =>
      simp
  | cons e l ih =>
      rcases e with ⟨k', v'⟩
      rw [List.map_cons, List.nodup_cons] at h
      rw [List.lookup_cons, List.mem_cons, Prod.mk.injEq]
      by_cases hk : k = k'
      · subst hk
        have hnot : ¬ (k, v) ∈ l := by
          intro hmem
          have hkey : k ∈ l.map Prod.fst := List.mem_map_of_mem (f := Prod.fst) hmem
          exact h.left hkey
        simp [hnot, eq_comm]
      · have hne : (k == k') = false := beq_eq_false_iff_ne.mpr hk
        rw [hne]
        simp [hk, ih h.right]

theorem mem_values_iff (m : Directory κ ν) (v : ν) : v ∈ m.values <-> exists k, m.get? k = some v := by
  rw [values, List.mem_map]
  constructor
  · intro h
    rcases h with ⟨⟨k, v'⟩, he, rfl⟩
    exact ⟨k, (lookup_eq_some_iff_of_nodup m.nodup_keys k v').mpr he⟩
  · intro h
    rcases h with ⟨k, hk⟩
    exact ⟨(k, v), (lookup_eq_some_iff_of_nodup m.nodup_keys k v).mp hk, rfl⟩

/-- Under different keys there are values that differ in this respect. -/
def Distinguishes {β : Type} (m : Directory κ ν) (f : ν -> β) : Prop :=
  forall k k' v v', m.get? k = some v -> m.get? k' = some v' -> f v = f v' -> k = k'

theorem distinguishes_empty {β : Type} (f : ν -> β) : (∅ : Directory κ ν).Distinguishes f := by
  intro k k' v v' h
  cases h

theorem Distinguishes.insert {β : Type} {m : Directory κ ν} {f : ν -> β} (h : m.Distinguishes f)
    {k : κ} {v : ν} (hnew : forall k' v', m.get? k' = some v' -> f v' ≠ f v) :
    (m.insert k v).Distinguishes f := by
  intro k₁ k₂ v₁ v₂ h₁ h₂ heq
  rw [get?_insert] at h₁ h₂
  by_cases hk₁ : k₁ = k
  · rw [if_pos hk₁] at h₁
    cases h₁
    by_cases hk₂ : k₂ = k
    · rw [hk₁, hk₂]
    · rw [if_neg hk₂] at h₂
      exact absurd heq.symm (hnew k₂ v₂ h₂)
  · rw [if_neg hk₁] at h₁
    by_cases hk₂ : k₂ = k
    · rw [if_pos hk₂] at h₂
      cases h₂
      exact absurd heq (hnew k₁ v₁ h₁)
    · rw [if_neg hk₂] at h₂
      exact h k₁ k₂ v₁ v₂ h₁ h₂ heq

end Directory

end CurrencyWallet
