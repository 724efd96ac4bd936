import Mathlib.Data.List.Induction

/-!
# The last of its kind

In a history the last entry of a kind decides. It is told by a decomposition of the list, so
that a statement about it does not depend on how one would search for it.
-/

namespace CurrencyWallet

section Last

variable {α : Type}

/-- The entry has the property, and no entry behind it has. -/
def LastWith (p : α -> Prop) (l : List α) (a : α) : Prop :=
  exists before after, l = before ++ a :: after ∧ p a ∧ forall b, b ∈ after -> ¬ p b

theorem snoc_eq_append_cons {l before after : List α} {a b : α}
    (h : l ++ [b] = before ++ a :: after) :
    (l = before ∧ b = a ∧ after = []) ∨
      exists init, after = init ++ [b] ∧ l = before ++ a :: init := by
  cases List.eq_nil_or_concat after with
  | inl hnil =>
      left
      rw [hnil] at h
      rcases List.append_inj' h rfl with ⟨hl, hb⟩
      exact ⟨hl, List.head_eq_of_cons_eq hb, hnil⟩
  | inr hconcat =>
      right
      rcases hconcat with ⟨init, last, hlast⟩
      rw [List.concat_eq_append] at hlast
      rw [hlast, ← List.cons_append, ← List.append_assoc] at h
      rcases List.append_inj' h rfl with ⟨hl, hb⟩
      rw [List.head_eq_of_cons_eq hb]
      exact ⟨init, hlast, hl⟩

variable {p : α -> Prop} {l : List α} {a b : α}

theorem not_lastWith_nil : ¬ LastWith p [] a := by
  intro h
  rcases h with ⟨before, after, hnil, _ha, _hafter⟩
  cases before with
  | nil =>
      cases hnil
  | cons x before =>
      cases hnil

theorem LastWith.mem (h : LastWith p l a) : a ∈ l ∧ p a := by
  rcases h with ⟨before, after, rfl, ha, _hafter⟩
  exact ⟨List.mem_append_right before List.mem_cons_self, ha⟩

theorem lastWith_snoc (h : p b) : LastWith p (l ++ [b]) a <-> a = b := by
  constructor
  · intro hlast
    rcases hlast with ⟨before, after, heq, _ha, hafter⟩
    rcases snoc_eq_append_cons heq with ⟨_hl, hb, _hnil⟩ | ⟨init, rfl, _hl⟩
    · exact hb.symm
    · exact absurd h (hafter b (List.mem_append_right init List.mem_cons_self))
  · intro hab
    rw [hab]
    exact ⟨l, [], rfl, h, fun c hc => absurd hc List.not_mem_nil⟩

theorem lastWith_snoc_of_not (h : ¬ p b) : LastWith p (l ++ [b]) a <-> LastWith p l a := by
  constructor
  · intro hlast
    rcases hlast with ⟨before, after, heq, ha, hafter⟩
    rcases snoc_eq_append_cons heq with ⟨_hl, hb, _hnil⟩ | ⟨init, rfl, hl⟩
    · rw [hb] at h
      exact absurd ha h
    · exact ⟨before, init, hl, ha, fun c hc => hafter c (List.mem_append_left [b] hc)⟩
  · intro hlast
    rcases hlast with ⟨before, after, rfl, ha, hafter⟩
    refine ⟨before, after ++ [b], by simp, ha, ?_⟩
    intro c hc
    rcases List.mem_append.mp hc with hc | hc
    · exact hafter c hc
    · rw [List.mem_singleton.mp hc]
      exact h

theorem LastWith.unique (h : LastWith p l a) (h' : LastWith p l b) : a = b := by
  induction l using List.reverseRecOn with
  | nil =>
      exact absurd h not_lastWith_nil
  | append_singleton l c ih =>
      by_cases hc : p c
      · rw [(lastWith_snoc hc).mp h, (lastWith_snoc hc).mp h']
      · exact ih ((lastWith_snoc_of_not hc).mp h) ((lastWith_snoc_of_not hc).mp h')

end Last

end CurrencyWallet
