/-!
# Directories

A directory holds one value under each of finitely many keys. It remembers in which
order the keys came, and replacing a value keeps the place of its key.

The view is `Directory.get?`: each operation is characterized by what it does to the
values found.
-/

namespace CurrencyWallet

/-- A finite map, listed in the order in which the keys were first used. -/
structure Directory (κ ν : Type) where
  entries : List (κ × ν)
  /-- No key is listed twice. -/
  nodup_keys : (entries.map Prod.fst).Nodup

namespace Directory

variable {κ ν : Type}

def empty : Directory κ ν where
  entries := []
  nodup_keys := by simp

instance : EmptyCollection (Directory κ ν) := ⟨empty⟩

def size (m : Directory κ ν) : Nat :=
  m.entries.length

/-- The keys in order. -/
def keys (m : Directory κ ν) : List κ :=
  m.entries.map Prod.fst

/-- The values in the order of their keys. -/
def values (m : Directory κ ν) : List ν :=
  m.entries.map Prod.snd

def filter (m : Directory κ ν) (p : κ → ν → Bool) : Directory κ ν where
  entries := m.entries.filter (fun e => p e.1 e.2)
  nodup_keys := m.nodup_keys.sublist (List.filter_sublist.map Prod.fst)

variable [DecidableEq κ]

def get? (m : Directory κ ν) (k : κ) : Option ν :=
  m.entries.lookup k

def contains (m : Directory κ ν) (k : κ) : Bool :=
  (m.get? k).isSome

def erase (m : Directory κ ν) (k : κ) : Directory κ ν :=
  m.filter (fun k' _ => k' ≠ k)

theorem map_fst_replace (l : List (κ × ν)) (k : κ) (v : ν) :
    (l.map (fun e => if e.1 = k then (k, v) else e)).map Prod.fst = l.map Prod.fst := by
  induction l with
  | nil => rfl
  | cons e l ih =>
      by_cases h : e.1 = k
      · simp [h, ih]
      · simp [h, ih]

/-- Puts a value under a key, in the place of the old value if there is one and at the
end otherwise. -/
def insert (m : Directory κ ν) (k : κ) (v : ν) : Directory κ ν :=
  if h : k ∈ m.entries.map Prod.fst then
    { entries := m.entries.map (fun e => if e.1 = k then (k, v) else e)
      nodup_keys := by rw [map_fst_replace]; exact m.nodup_keys }
  else
    { entries := m.entries ++ [(k, v)]
      nodup_keys := by
        rw [List.map_append]
        exact List.nodup_append.2
          ⟨m.nodup_keys, by simp, by
            intro a ha b hb
            simp at hb
            subst hb
            intro e
            exact h (e ▸ ha)⟩ }

/-- The directory with these entries; of several values under one key the last one stays. -/
def ofList (l : List (κ × ν)) : Directory κ ν :=
  l.foldl (fun m e => m.insert e.1 e.2) ∅

/-!
### The values found
-/

@[simp] theorem get?_empty (k : κ) : (∅ : Directory κ ν).get? k = none := rfl

theorem lookup_filter_of_nodup {l : List (κ × ν)} (h : (l.map Prod.fst).Nodup)
    (p : κ → ν → Bool) (k : κ) :
    (l.filter (fun e => p e.1 e.2)).lookup k = (l.lookup k).filter (p k) := by
  induction l with
  | nil => rfl
  | cons e l ih =>
      obtain ⟨k', v⟩ := e
      rw [List.map_cons, List.nodup_cons] at h
      by_cases hk : k = k'
      · subst hk
        have hnone : (l.filter (fun e => p e.1 e.2)).lookup k = none := by
          rw [List.lookup_eq_none_iff]
          intro e he
          have hmem : e.1 ∈ l.map Prod.fst := List.mem_map_of_mem (List.mem_filter.1 he).1
          simp
          exact fun heq => h.1 (heq ▸ hmem)
        by_cases hp : p k v
        · simp [hp, Option.filter]
        · simp [hp, hnone, Option.filter]
      · have hne : (k == k') = false := by simpa using hk
        by_cases hp : p k' v
        · simp [hp, List.lookup_cons, hne, ih h.2]
        · simp [hp, List.lookup_cons, hne, ih h.2]

/-- Filtering keeps what is found exactly when it satisfies the condition. -/
theorem get?_filter (m : Directory κ ν) (p : κ → ν → Bool) (k : κ) :
    (m.filter p).get? k = (m.get? k).filter (p k) :=
  lookup_filter_of_nodup m.nodup_keys p k

theorem lookup_replace (l : List (κ × ν)) (k k' : κ) (v : ν) (h : k ∈ l.map Prod.fst) :
    (l.map (fun e => if e.1 = k then (k, v) else e)).lookup k' =
      if k' = k then some v else l.lookup k' := by
  induction l with
  | nil => simp at h
  | cons e l ih =>
      obtain ⟨a, b⟩ := e
      by_cases hk' : k' = k
      · subst hk'
        by_cases ha : a = k'
        · simp [ha]
        · have hmem : k' ∈ l.map Prod.fst := by
            simp only [List.map_cons, List.mem_cons] at h
            exact h.resolve_left (fun e => ha e.symm)
          have hne : (k' == a) = false := by simpa using fun e => ha e.symm
          simpa [ha, List.lookup_cons, hne] using ih hmem
      · by_cases ha : a = k
        · have hne : (k' == k) = false := by simpa using hk'
          subst ha
          by_cases hmem : a ∈ l.map Prod.fst
          · simpa [List.lookup_cons, hne, hk'] using ih hmem
          · have hid : l.map (fun e => if e.1 = a then (a, v) else e) = l := by
              rw [List.map_congr_left (g := id), List.map_id]
              intro e he
              have : e.1 ≠ a := fun heq => hmem (heq ▸ List.mem_map_of_mem he)
              simp [this]
            simp [List.lookup_cons, hne, hk', hid]
        · by_cases haa : k' = a
          · subst haa
            simp [ha]
          · have hne : (k' == a) = false := by simpa using haa
            have hmem : k ∈ l.map Prod.fst := by
              simp only [List.map_cons, List.mem_cons] at h
              exact h.resolve_left (fun e => ha e.symm)
            simpa [ha, List.lookup_cons, hne, hk'] using ih hmem

/-- An inserted value is found under its key, and nothing else changes. -/
theorem get?_insert (m : Directory κ ν) (k k' : κ) (v : ν) :
    (m.insert k v).get? k' = if k' = k then some v else m.get? k' := by
  unfold insert get?
  split
  · next h => exact lookup_replace m.entries k k' v h
  · next h =>
      rw [List.lookup_append]
      by_cases hk : k' = k
      · subst hk
        have hnone : m.entries.lookup k' = none := by
          rw [List.lookup_eq_none_iff]
          intro e he
          simp
          exact fun heq => h (heq ▸ List.mem_map_of_mem he)
        simp [hnone]
      · have hne : (k' == k) = false := by simpa using hk
        simp [List.lookup_cons, hne, hk]

/-- An erased key is gone, and nothing else changes. -/
theorem get?_erase (m : Directory κ ν) (k k' : κ) :
    (m.erase k).get? k' = if k' = k then none else m.get? k' := by
  rw [erase, get?_filter]
  by_cases h : k' = k
  · simp [h]
  · simp [h]
    cases m.get? k' <;> rfl

end Directory

end CurrencyWallet
