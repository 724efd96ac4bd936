import CurrencyWallet.Random.Draw

/-!
# Drawing reads words

Whoever draws from a source reads words from it, one after the other, and cannot tell where they
come from. So a draw is known from what it makes of a list of words that is used up by it: any
source that gives these words gives the same result, and what is left of it is what comes after
them. This holds of every draw that redraws until it is content, too, however many words that takes.
-/

namespace CurrencyWallet

/-!
## The words that a source gives
-/

/-- A source gives these words, in this order, and becomes another one. -/
inductive Gives {σ : Type} [WordSource σ] : σ -> List UInt32 -> σ -> Prop where
  | none (s : σ) : Gives s [] s
  | next {s s₁ s' : σ} {w : UInt32} {ws : List UInt32} (hw : WordSource.next? s = some (w, s₁))
      (hws : Gives s₁ ws s') : Gives s (w :: ws) s'

section Gives

variable {σ : Type} [WordSource σ] {s s₁ s' : σ} {ws ws' : List UInt32}

theorem gives_nil_iff : Gives s [] s' <-> s' = s := by
  constructor
  · intro h
    cases h
    rfl
  · intro h
    rw [h]
    exact .none s

theorem gives_cons_iff {w : UInt32} :
    Gives s (w :: ws) s' <-> exists s₁, WordSource.next? s = some (w, s₁) ∧ Gives s₁ ws s' := by
  constructor
  · intro h
    cases h with
    | next hw hws =>
        exact ⟨_, hw, hws⟩
  · intro h
    rcases h with ⟨s₁, hw, hws⟩
    exact .next hw hws

theorem gives_append_iff :
    Gives s (ws ++ ws') s' <-> exists s₁, Gives s ws s₁ ∧ Gives s₁ ws' s' := by
  induction ws generalizing s with
  | nil =>
      simp [gives_nil_iff]
  | cons w ws ih =>
      simp only [List.cons_append, gives_cons_iff, ih]
      constructor
      · intro h
        rcases h with ⟨s₁, hw, s₂, hws, hws'⟩
        exact ⟨s₂, ⟨s₁, hw, hws⟩, hws'⟩
      · intro h
        rcases h with ⟨s₂, ⟨s₁, hw, hws⟩, hws'⟩
        exact ⟨s₁, hw, s₂, hws, hws'⟩

theorem gives_list_iff {s s' : List UInt32} : Gives s ws s' <-> s = ws ++ s' := by
  induction ws generalizing s with
  | nil =>
      rw [gives_nil_iff, List.nil_append, eq_comm]
  | cons w ws ih =>
      rw [gives_cons_iff, List.cons_append]
      cases s with
      | nil =>
          simp [WordSource.next?, nextOfList?]
      | cons a as =>
          simp [WordSource.next?, nextOfList?, ih]

end Gives

/-!
## Readers
-/

abbrev Drawing (α : Type) := forall {σ : Type} [WordSource σ], σ -> Option (α × σ)

/-- What is drawn depends on the words that are read, and on nothing else. -/
structure IsReader {α : Type} (f : Drawing α) : Prop where
  eq_some_iff : forall {σ : Type} [WordSource σ] {s s' : σ} {a : α},
    f s = some (a, s') <-> exists ws, Gives s ws s' ∧ f ws = some (a, [])

section Readers

variable {α β : Type}

theorem isReader_next : IsReader WordSource.next? := by
  refine ⟨?_⟩
  intro σ _ s s' w
  constructor
  · intro h
    exact ⟨[w], .next h (.none s'), rfl⟩
  · intro h
    rcases h with ⟨ws, hws, hw⟩
    cases ws with
    | nil =>
        cases hw
    | cons w' ws =>
        cases hw
        rcases gives_cons_iff.mp hws with ⟨s₁, hw, hnone⟩
        rw [gives_nil_iff.mp hnone]
        exact hw

theorem isReader_pure (a : α) : IsReader (fun s => some (a, s)) := by
  refine ⟨?_⟩
  intro σ _ s s' a'
  constructor
  · intro h
    cases h
    exact ⟨[], .none s, rfl⟩
  · intro h
    rcases h with ⟨ws, hws, ha⟩
    cases ha
    rw [gives_nil_iff.mp hws]

theorem isReader_none : IsReader (fun _s => (none : Option (α × _))) := by
  refine ⟨?_⟩
  intro σ _ s s' a
  simp

theorem isReader_option (o : Option α) : IsReader (fun s => o.map (·, s)) := by
  cases o with
  | none => exact isReader_none
  | some a => exact isReader_pure a

variable {f : Drawing α}

theorem IsReader.of_eq (hf : IsReader f) {f' : Drawing α}
    (h : forall {σ : Type} [WordSource σ] (s : σ), f' s = f s) : IsReader f' := by
  refine ⟨?_⟩
  intro σ _ s s' a
  simp only [h]
  exact hf.eq_some_iff

theorem IsReader.append (hf : IsReader f) {ws : List UInt32} {a : α} (h : f ws = some (a, []))
    (rest : List UInt32) : f (ws ++ rest) = some (a, rest) :=
  hf.eq_some_iff.mpr ⟨ws, gives_list_iff.mpr rfl, h⟩

/-- Readers that read one after the other are a reader. -/
theorem IsReader.bind (hf : IsReader f) {g : α -> Drawing β} (hg : forall a, IsReader (g a)) :
    IsReader (fun s => f s >>= fun (a, s) => g a s) := by
  refine ⟨?_⟩
  intro σ _ s s' b
  simp only [Option.bind_eq_bind, Option.bind_eq_some_iff, Prod.exists]
  constructor
  · intro h
    rcases h with ⟨a, s₁, ha, hb⟩
    rcases hf.eq_some_iff.mp ha with ⟨ws, hws, hread⟩
    rcases (hg a).eq_some_iff.mp hb with ⟨ws', hws', hread'⟩
    exact ⟨ws ++ ws', gives_append_iff.mpr ⟨s₁, hws, hws'⟩, a, ws', hf.append hread ws', hread'⟩
  · intro h
    rcases h with ⟨all, hall, a, ws', ha, hb⟩
    rcases hf.eq_some_iff.mp ha with ⟨ws, hws, hread⟩
    rw [gives_list_iff.mp hws] at hall
    rcases gives_append_iff.mp hall with ⟨s₁, hfirst, hsecond⟩
    exact ⟨a, s₁, hf.eq_some_iff.mpr ⟨ws, hfirst, hread⟩, (hg a).eq_some_iff.mpr ⟨ws', hsecond, hb⟩⟩

end Readers

/-!
## Drawing until something is accepted
-/

/-- Draws until something is accepted, as long as there are words. -/
structure Redraws {α β : Type} (g : Drawing α) (accept : α -> Option β) (f : Drawing β) :
    Prop where
  less : forall {σ : Type} [WordSource σ] {s s' : σ} {a : α}, g s = some (a, s') ->
    WordSource.remaining s' < WordSource.remaining s
  again : forall {σ : Type} [WordSource σ] (s : σ),
    f s = g s >>= fun (a, s) => match accept a with
      | some b => some (b, s)
      | none => f s

section Redraws

variable {α β : Type} {g : Drawing α} {accept : α -> Option β} {f : Drawing β}
  {σ : Type} [WordSource σ] {s s' : σ} {b : β}

theorem Redraws.eq_some_iff (h : Redraws g accept f) : f s = some (b, s') <->
    exists a s₁, g s = some (a, s₁) ∧
      ((accept a = some b ∧ s₁ = s') ∨ (accept a = none ∧ f s₁ = some (b, s'))) := by
  rw [h.again]
  simp only [Option.bind_eq_bind, Option.bind_eq_some_iff, Prod.exists]
  refine exists_congr fun a => exists_congr fun s₁ => and_congr_right fun _ha => ?_
  cases accept a with
  | none => simp
  | some b' => simp

theorem Redraws.exists_words (h : Redraws g accept f) (hg : IsReader g)
    (hb : f s = some (b, s')) : exists ws, Gives s ws s' ∧ f ws = some (b, []) := by
  induction hn : WordSource.remaining s using Nat.strongRecOn generalizing s with
  | ind n ih =>
      rcases h.eq_some_iff.mp hb with ⟨a, s₁, ha, haccept⟩
      rcases hg.eq_some_iff.mp ha with ⟨ws, hws, hread⟩
      rcases haccept with ⟨haccept, rfl⟩ | ⟨hreject, hb⟩
      · exact ⟨ws, hws, h.eq_some_iff.mpr ⟨a, [], hread, .inl ⟨haccept, rfl⟩⟩⟩
      · rcases ih _ (hn ▸ h.less ha) hb rfl with ⟨ws', hws', hread'⟩
        exact ⟨ws ++ ws', gives_append_iff.mpr ⟨s₁, hws, hws'⟩,
          h.eq_some_iff.mpr ⟨a, ws', hg.append hread ws', .inr ⟨hreject, hread'⟩⟩⟩

theorem Redraws.of_words (h : Redraws g accept f) (hg : IsReader g) {ws : List UInt32}
    (hws : Gives s ws s') (hb : f ws = some (b, [])) : f s = some (b, s') := by
  induction hn : WordSource.remaining ws using Nat.strongRecOn generalizing s ws with
  | ind n ih =>
      rcases h.eq_some_iff.mp hb with ⟨a, rest, ha, haccept⟩
      rcases hg.eq_some_iff.mp ha with ⟨first, hfirst, hread⟩
      rw [gives_list_iff.mp hfirst] at hws
      rcases gives_append_iff.mp hws with ⟨s₁, hs₁, hrest⟩
      have hs := hg.eq_some_iff.mpr ⟨first, hs₁, hread⟩
      rcases haccept with ⟨haccept, rfl⟩ | ⟨hreject, hb⟩
      · exact h.eq_some_iff.mpr ⟨a, s₁, hs, .inl ⟨haccept, (gives_nil_iff.mp hrest).symm⟩⟩
      · exact h.eq_some_iff.mpr ⟨a, s₁, hs, .inr ⟨hreject, ih _ (hn ▸ h.less ha) hrest hb rfl⟩⟩

/-- Who draws until something is accepted reads words if every single draw does. -/
theorem Redraws.isReader (h : Redraws g accept f) (hg : IsReader g) : IsReader f := by
  refine ⟨?_⟩
  intro σ _ s s' b
  constructor
  · exact h.exists_words hg
  · intro hread
    rcases hread with ⟨ws, hws, hb⟩
    exact h.of_words hg hws hb

end Redraws

/-!
## Uniform draws
-/

theorem isReader_drawNumber? (width : DrawWidth) : IsReader (drawNumber? width) := by
  cases width with
  | single =>
      refine (isReader_next.bind fun w => isReader_pure w.toNat).of_eq ?_
      intro σ _ s
      rw [drawNumber?]
      cases WordSource.next? s with
      | none => rfl
      | some next => rfl
  | double =>
      refine (isReader_next.bind fun low => isReader_next.bind fun high =>
        isReader_pure (low.toNat + 2 ^ (32 : Nat) * high.toNat)).of_eq ?_
      intro σ _ s
      rw [drawNumber?]
      rcases WordSource.next? s with _ | ⟨low, s₁⟩
      · rfl
      · dsimp only [Option.bind_eq_bind, Option.bind_some]
        cases WordSource.next? s₁ with
        | none => rfl
        | some next => rfl

theorem redraws_drawAccepted? (width : DrawWidth) (n : Nat) :
    Redraws (drawNumber? width)
      (fun v => if v * n % 2 ^ width.bits ≤ acceptanceZone width n then
        some (v * n / 2 ^ width.bits) else none)
      (drawAccepted? width n) where
  less := remaining_lt_of_drawNumber?
  again := by
    intro σ _ s
    rw [drawAccepted?]
    split
    next hs =>
      rw [hs]
      rfl
    next v s₁ hs =>
      rw [hs]
      dsimp only [Option.bind_eq_bind, Option.bind_some]
      split
      · rfl
      · rfl

theorem isReader_drawBelow? (width : DrawWidth) (n : Nat) : IsReader (drawBelow? width n) := by
  by_cases hn : n = 0
  · exact isReader_none.of_eq fun s => if_pos hn
  · exact ((redraws_drawAccepted? width n).isReader (isReader_drawNumber? width)).of_eq
      fun s => if_neg hn

end CurrencyWallet
