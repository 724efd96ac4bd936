import CurrencyWallet.Power

/-!
# Computations that succeed

A sequence of checks succeeds when each check does. These facts take such a sequence apart
without opening the definitions of its parts.
-/

namespace CurrencyWallet

section Success

variable {ε ε' α β : Type}

theorem bind_eq_ok_iff {x : Except ε α} {f : α -> Except ε β} {b : β} :
    x >>= f = .ok b <-> exists a, x = .ok a ∧ f a = .ok b := by
  cases x with
  | error e =>
      constructor
      · intro h
        cases h
      · intro h
        rcases h with ⟨_a, ha, _hb⟩
        cases ha
  | ok a =>
      constructor
      · intro h
        exact ⟨a, rfl, h⟩
      · intro h
        rcases h with ⟨a', ha, hb⟩
        cases ha
        exact hb

theorem mapError_eq_ok_iff {x : Except ε α} {f : ε -> ε'} {a : α} :
    x.mapError f = .ok a <-> x = .ok a := by
  cases x with
  | error e =>
      constructor
      · intro h
        cases h
      · intro h
        cases h
  | ok a' =>
      constructor
      · intro h
        cases h
        rfl
      · intro h
        cases h
        rfl

theorem map_injective {f : α -> β} (hf : Function.Injective f) :
    Function.Injective (Except.map f : Except ε α -> Except ε β) := by
  intro x y h
  cases x with
  | error e =>
      cases y with
      | error e' =>
          cases h
          rfl
      | ok b =>
          cases h
  | ok a =>
      cases y with
      | error e' =>
          cases h
      | ok b =>
          rw [hf (Except.ok.inj h)]

theorem forM_eq_ok_iff {f : α -> Except ε Unit} {l : List α} :
    l.forM f = .ok () <-> forall a, a ∈ l -> f a = .ok () := by
  induction l with
  | nil =>
      simp [pure, Except.pure]
  | cons a l ih =>
      rw [List.forall_mem_cons, ← ih]
      constructor
      · intro h
        exact bind_eq_ok_iff.mp h |>.elim fun _u hfirst => hfirst
      · intro h
        exact bind_eq_ok_iff.mpr ⟨(), h⟩

/-- The first check that fails decides, and nothing behind it is checked. -/
theorem forM_eq_error_iff {f : α -> Except ε Unit} {l : List α} {e : ε} :
    l.forM f = .error e <-> exists before a after, l = before ++ a :: after ∧
      (forall b, b ∈ before -> f b = .ok ()) ∧ f a = .error e := by
  induction l with
  | nil =>
      constructor
      · intro h
        cases h
      · intro h
        rcases h with ⟨before, a, after, hsplit, _hbefore, _ha⟩
        have hnonempty := List.append_ne_nil_of_right_ne_nil before (List.cons_ne_nil a after)
        exact absurd hsplit.symm hnonempty
  | cons x l ih =>
      change (f x >>= fun _u => l.forM f) = .error e <-> _
      cases hx : f x with
      | error e' =>
          constructor
          · intro h
            cases h
            exact ⟨[], x, l, rfl, List.forall_mem_nil _, hx⟩
          · intro h
            rcases h with ⟨before, a, after, hsplit, hbefore, ha⟩
            cases before with
            | nil =>
                cases hsplit
                rw [hx] at ha
                exact ha
            | cons b before =>
                cases hsplit
                rw [hbefore x List.mem_cons_self] at hx
                cases hx
      | ok u =>
          change l.forM f = .error e <-> _
          rw [ih]
          constructor
          · intro h
            rcases h with ⟨before, a, after, hsplit, hbefore, ha⟩
            exact ⟨x :: before, a, after, congrArg (x :: ·) hsplit,
              List.forall_mem_cons.mpr ⟨hx, hbefore⟩, ha⟩
          · intro h
            rcases h with ⟨before, a, after, hsplit, hbefore, ha⟩
            cases before with
            | nil =>
                cases hsplit
                rw [hx] at ha
                cases ha
            | cons b before =>
                cases hsplit
                exact ⟨before, a, after, rfl, (List.forall_mem_cons.mp hbefore).right, ha⟩

theorem toOption_eq_some_iff {x : Except ε α} {a : α} : x.toOption = some a <-> x = .ok a := by
  cases x with
  | error e =>
      constructor
      · intro h
        cases h
      · intro h
        cases h
  | ok a' =>
      constructor
      · intro h
        cases h
        rfl
      · intro h
        cases h
        rfl

theorem ite_throw_eq_ok_iff {p : Prop} [Decidable p] {e : ε} {f : Unit -> Except ε β} {b : β} :
    (if p then throw e >>= f else f ()) = .ok b <-> ¬ p ∧ f () = .ok b := by
  by_cases hp : p
  · rw [if_pos hp]
    constructor
    · intro h
      cases h
    · intro h
      exact absurd hp h.left
  · rw [if_neg hp]
    constructor
    · intro h
      exact ⟨hp, h⟩
    · intro h
      exact h.right

/-!
## Errors
-/

def FailsOnly (p : ε -> Prop) (x : Except ε α) : Prop :=
  forall e, x = .error e -> p e

section FailsOnly

variable {p : ε -> Prop} {x : Except ε α}

theorem failsOnly_ok (a : α) : FailsOnly p (.ok a : Except ε α) := by
  intro e h
  cases h

theorem failsOnly_error {e : ε} (h : p e) : FailsOnly p (.error e : Except ε α) := by
  intro e' h'
  cases h'
  exact h

theorem FailsOnly.bind {f : α -> Except ε β} (hx : FailsOnly p x)
    (hf : forall a, x = .ok a -> FailsOnly p (f a)) : FailsOnly p (x >>= f) := by
  intro e h
  cases x with
  | error e' =>
      cases h
      exact hx e rfl
  | ok a =>
      exact hf a rfl e h

theorem FailsOnly.mapError {q : ε' -> Prop} {f : ε -> ε'} (hx : FailsOnly p x)
    (hf : forall e, p e -> q (f e)) : FailsOnly q (x.mapError f) := by
  intro e h
  cases x with
  | error e' =>
      cases h
      exact hf e' (hx e' rfl)
  | ok a =>
      cases h

theorem FailsOnly.map (hx : FailsOnly p x) (f : α -> β) : FailsOnly p (x.map f) := by
  intro e h
  cases x with
  | error e' =>
      cases h
      exact hx e rfl
  | ok a =>
      cases h

end FailsOnly

end Success

end CurrencyWallet
