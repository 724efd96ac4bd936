import CurrencyWallet.Proofs.Decimal.Value
import CurrencyWallet.Proofs.Random.Reading
import CurrencyWallet.Proofs.Simulation.Scenario
import Mathlib.Data.List.Forall2

/-!
# The operations of a scenario

Every operation that a scenario comes up with can be carried out on one of the wallets: it moves at
least a cent and less than a thousand, and an exchange is between two currencies. Each operation is
made of words that no other operation is made of. Any number of them in a row take consecutive parts
of what a source gives, and each is what its own part alone would give.
-/

namespace CurrencyWallet

def Operation.amount : Operation -> Decimal
  | .deposit _ amount => amount
  | .withdraw _ amount => amount
  | .exchange _ _ amount => amount

/-- An operation moves at least a cent, less than a thousand, and whole cents, and it does not
exchange a currency for itself. -/
structure Operation.WellFormed (o : Operation) : Prop where
  cent_le : 1 / 100 ≤ o.amount.value
  le_largest : o.amount.value ≤ 99999 / 100
  scale_eq : o.amount.scale = 2
  distinct : forall source target amount, o = .exchange source target amount -> source ≠ target

namespace Scenario

/-!
## Operations are made of words
-/

theorem isReader_drawCurrency? : IsReader drawCurrency? := by
  refine ((isReader_drawBelow? .double Currency.all.length).bind fun n =>
    isReader_option Currency.all[n]?).of_eq ?_
  intro σ _ s
  rw [drawCurrency?]
  cases drawBelow? .double Currency.all.length s with
  | none => rfl
  | some next => rfl

theorem redraws_drawOther? (currency : Currency) :
    Redraws drawCurrency? (fun other => if other = currency then none else some other)
      (drawOther? currency) where
  less := remaining_lt_of_drawCurrency?
  again := by
    intro σ _ s
    rw [drawOther?]
    split
    next hs =>
      rw [hs]
      rfl
    next other s₁ hs =>
      rw [hs]
      dsimp only [Option.bind_eq_bind, Option.bind_some]
      split
      · rfl
      · rfl

theorem isReader_kind (currency : Currency) (amount : Decimal) (kind : Nat) :
    IsReader (fun s => match kind with
      | 0 => some (Operation.deposit currency amount, s)
      | 1 => some (.withdraw currency amount, s)
      | _ => drawOther? currency s >>= fun (target, s) =>
          some (.exchange currency target amount, s)) := by
  rcases kind with _ | _ | kind
  · exact isReader_pure _
  · exact isReader_pure _
  · exact ((redraws_drawOther? currency).isReader isReader_drawCurrency?).bind
      fun target => isReader_pure (Operation.exchange currency target amount)

theorem isReader_drawOperation? (currency : Currency) (amount : Decimal) :
    IsReader (drawOperation? currency amount) :=
  (isReader_drawBelow? .single 3).bind (isReader_kind currency amount)

theorem isReader_nextOperation? (scenario : Scenario) (wallets : Nat) :
    IsReader (scenario.nextOperation? wallets) := by
  cases scenario with
  | contention =>
      exact isReader_pure _
  | random =>
      exact (isReader_drawBelow? .double wallets).bind fun wallet =>
        (isReader_drawBelow? .double 99999).bind fun cents =>
          isReader_drawCurrency?.bind fun currency =>
            (isReader_drawOperation? currency (ofCents (cents + 1))).bind
              fun operation => isReader_pure (wallet, operation)

/-!
## Operations in a row
-/

section Row

variable {scenario : Scenario} {wallets n : Nat} {σ : Type} [WordSource σ] {s s' : σ}
  {operations : List (Nat × Operation)}

theorem nextOperations?_succ_eq_some_iff :
    scenario.nextOperations? wallets s (n + 1) = some (operations, s') <->
      exists first s₁ rest, scenario.nextOperation? wallets s = some (first, s₁) ∧
        scenario.nextOperations? wallets s₁ n = some (rest, s') ∧ operations = first :: rest := by
  rw [nextOperations?]
  simp only [Option.bind_eq_bind, Option.bind_eq_some_iff]
  constructor
  · intro h
    rcases h with ⟨⟨first, s₁⟩, hfirst, ⟨rest, s₂⟩, hrest, heq⟩
    cases heq
    exact ⟨first, s₁, rest, hfirst, hrest, rfl⟩
  · intro h
    rcases h with ⟨first, s₁, rest, hfirst, hrest, rfl⟩
    exact ⟨_, hfirst, _, hrest, rfl⟩

/-- Operations in a row are made of consecutive parts of what the source gives, and each is what
its own part alone gives. -/
theorem nextOperations?_eq_some_iff :
    scenario.nextOperations? wallets s n = some (operations, s') <->
      operations.length = n ∧ exists parts, Gives s parts.flatten s' ∧
        List.Forall₂ (fun part o => scenario.nextOperation? wallets part = some (o, []))
          parts operations := by
  have hreader := isReader_nextOperation? scenario wallets
  induction n generalizing s operations with
  | zero =>
      rw [nextOperations?, List.length_eq_zero_iff]
      constructor
      · intro h
        cases h
        exact ⟨rfl, [], .none _, .nil⟩
      · intro h
        rcases h with ⟨rfl, parts, hgives, hparts⟩
        cases hparts
        rw [gives_nil_iff.mp hgives]
  | succ n ih =>
      rw [nextOperations?_succ_eq_some_iff]
      constructor
      · intro h
        rcases h with ⟨first, s₁, rest, hfirst, hrest, rfl⟩
        rcases hreader.eq_some_iff.mp hfirst with ⟨part, hpart, hread⟩
        rcases ih.mp hrest with ⟨hlength, parts, hgives, hparts⟩
        refine ⟨congrArg Nat.succ hlength, part :: parts, ?_, .cons hread hparts⟩
        exact gives_append_iff.mpr ⟨s₁, hpart, hgives⟩
      · intro h
        rcases h with ⟨hlength, parts, hgives, hparts⟩
        cases hparts with
        | nil =>
            cases hlength
        | cons hread hparts =>
            rcases gives_append_iff.mp hgives with ⟨s₁, hpart, hgives⟩
            exact ⟨_, s₁, _, hreader.eq_some_iff.mpr ⟨_, hpart, hread⟩,
              ih.mpr ⟨Nat.succ.inj hlength, _, hgives, hparts⟩, rfl⟩

end Row

/-!
## Operations can be carried out
-/

section WellFormed

variable {σ : Type} [WordSource σ] {s s' : σ}

theorem ofCents_eq {n : Nat} (h : n < 2 ^ 96) : ofCents n = ⟨false, n, 2, h, by decide⟩ := by
  rw [ofCents, Decimal.ofParts?, Bool.false_and, Decimal.make?, dif_pos ⟨h, by decide⟩]
  rfl

theorem ne_of_drawOther? {currency other : Currency}
    (h : drawOther? currency s = some (other, s')) : other ≠ currency := by
  fun_induction drawOther? currency s with
  | case1 s hs =>
      cases h
  | case2 s s₁ hs ih =>
      exact ih h
  | case3 s other s₁ hs hother =>
      cases h
      exact hother

theorem drawOperation?_cases {currency : Currency} {amount : Decimal} {o : Operation}
    (h : drawOperation? currency amount s = some (o, s')) :
    o = .deposit currency amount ∨ o = .withdraw currency amount ∨
      exists target, target ≠ currency ∧ o = .exchange currency target amount := by
  unfold drawOperation? at h
  simp only [Option.bind_eq_bind, Option.bind_eq_some_iff] at h
  rcases h with ⟨⟨kind, s₁⟩, _hkind, h⟩
  dsimp only at h
  split at h
  · cases h
    exact .inl rfl
  · cases h
    exact .inr (.inl rfl)
  · simp only [Option.bind_eq_some_iff] at h
    rcases h with ⟨⟨target, s₂⟩, htarget, h⟩
    cases h
    exact .inr (.inr ⟨target, ne_of_drawOther? htarget, rfl⟩)

theorem wellFormed_of_cents {o : Operation} {cents : Nat} (hcents : cents < 99999)
    (hamount : o.amount = ofCents (cents + 1))
    (hdistinct : forall source target amount, o = .exchange source target amount ->
      source ≠ target) : o.WellFormed := by
  have hlarge : (cents : ℚ) + 1 ≤ 99999 := by exact_mod_cast hcents
  have hvalue : o.amount.value = ((cents : ℚ) + 1) / 100 := by
    rw [hamount, ofCents_eq (by omega)]
    norm_num [Decimal.value, Decimal.coefficient]
  constructor
  · rw [hvalue]
    apply div_le_div_of_nonneg_right _ (by norm_num)
    linarith [Nat.cast_nonneg (α := ℚ) cents]
  · rw [hvalue]
    exact div_le_div_of_nonneg_right hlarge (by norm_num)
  · rw [hamount, ofCents_eq (by omega)]
  · exact hdistinct

theorem wellFormed_of_nextOperation? {scenario : Scenario} {wallets number : Nat} {o : Operation}
    (h : scenario.nextOperation? wallets s = some ((number, o), s')) : o.WellFormed := by
  cases scenario with
  | contention =>
      cases h
      constructor
      · norm_num [Operation.amount, contentionAmount, Decimal.value, Decimal.coefficient]
      · norm_num [Operation.amount, contentionAmount, Decimal.value, Decimal.coefficient]
      · rfl
      · intro source target amount hexchange
        cases hexchange
  | random =>
      unfold nextOperation? at h
      simp only [Option.bind_eq_bind, Option.bind_eq_some_iff, Option.pure_def,
        Option.some.injEq, Prod.mk.injEq, Prod.exists] at h
      rcases h with ⟨_number, _s₁, _hnumber, cents, _s₂, hcents, currency, _s₃, _hcurrency,
        _operation, _s₄, hoperation, ⟨_hnumber', rfl⟩, _hs'⟩
      have hbelow := lt_of_drawBelow? hcents
      rcases drawOperation?_cases hoperation with rfl | rfl | ⟨target, htarget, rfl⟩
      · exact wellFormed_of_cents hbelow rfl (by intro _ _ _ hexchange; cases hexchange)
      · exact wellFormed_of_cents hbelow rfl (by intro _ _ _ hexchange; cases hexchange)
      · refine wellFormed_of_cents hbelow rfl ?_
        intro source target' amount hexchange
        cases hexchange
        exact htarget.symm

theorem wellFormed_of_nextOperations? {scenario : Scenario} {wallets n : Nat}
    {operations : List (Nat × Operation)} (hwallets : 0 < wallets)
    (h : scenario.nextOperations? wallets s n = some (operations, s')) :
    forall o, o ∈ operations -> o.1 < wallets ∧ o.2.WellFormed := by
  rcases (nextOperations?_eq_some_iff.mp h).right with ⟨parts, _hgives, hparts⟩
  have hall : List.Forall₂ (fun (o : Nat × Operation) _part =>
      (o.1 < wallets ∧ o.2.WellFormed) ∧ True) operations parts := by
    refine (hparts.imp ?_).flip
    intro part o hread
    exact ⟨⟨number_lt_of_nextOperation? hwallets hread, wellFormed_of_nextOperation? hread⟩,
      trivial⟩
  exact ((List.forall₂_and_left operations parts).mp hall).left

/-- Every operation is for one of the wallets and can be carried out, and it is made of the words
that it takes from the source, which are the next ones. Any number of operations in a row take
consecutive parts of the words, and each is what its own part alone gives. -/
theorem operations_wellFormed (scenario : Scenario) {wallets : Nat} (hwallets : 0 < wallets)
    (s : σ) :
    (forall number o s', scenario.nextOperation? wallets s = some ((number, o), s') ->
      number < wallets ∧ o.WellFormed ∧ exists words, Gives s words s' ∧
        scenario.nextOperation? wallets words = some ((number, o), [])) ∧
    (forall n operations s', scenario.nextOperations? wallets s n = some (operations, s') ->
      operations.length = n ∧
        (forall o, o ∈ operations -> o.1 < wallets ∧ o.2.WellFormed) ∧
        exists parts, Gives s parts.flatten s' ∧
          List.Forall₂ (fun part o => scenario.nextOperation? wallets part = some (o, []))
            parts operations) := by
  constructor
  · intro number o s' h
    exact ⟨number_lt_of_nextOperation? hwallets h, wellFormed_of_nextOperation? h,
      (isReader_nextOperation? scenario wallets).eq_some_iff.mp h⟩
  · intro n operations s' h
    rcases nextOperations?_eq_some_iff.mp h with ⟨hlength, hparts⟩
    exact ⟨hlength, wellFormed_of_nextOperations? hwallets h, hparts⟩

theorem operations_wellFormed_redrawn :
    let part : List UInt32 :=
      [0xffffffff, 0xffffffff, 0, 0x80000000, 0xffffffff, 0xffffffff, 0xe5c51d43, 0xffff5839,
        0, 0, 0xffffffff, 0xc0000000, 0, 0, 0, 0x60000000]
    let part' : List UInt32 := [0, 0, 0, 0, 0, 0, 0]
    let first : Operation := .exchange .rub .usd ⟨false, 99999, 2, by decide, by decide⟩
    let second : Operation := .deposit .rub ⟨false, 1, 2, by decide, by decide⟩
    (0 < 2 ∧ random.nextOperation? 2 (part ++ part' ++ [7]) = some ((1, first), part' ++ [7]) ∧
      random.nextOperations? 2 (part ++ part' ++ [7]) 2 =
        some ([(1, first), (0, second)], [7])) ∧
      first.WellFormed ∧ random.nextOperation? 2 part = some ((1, first), []) ∧
      second.WellFormed ∧
      exists parts, part ++ part' ++ [7] = parts.flatten ++ [7] ∧
        List.Forall₂ (fun part o => random.nextOperation? 2 part = some (o, [])) parts
          [(1, first), (0, second)] := by
  intro part part' first second
  have hone : random.nextOperation? 2 (part ++ part' ++ [7]) =
      some ((1, first), part' ++ [7]) := by decide +kernel
  have hboth : random.nextOperations? 2 (part ++ part' ++ [7]) 2 =
      some ([(1, first), (0, second)], [7]) := by decide +kernel
  rcases operations_wellFormed random (by decide : 0 < 2) (part ++ part' ++ [7]) with
    ⟨hsingle, hrow⟩
  rcases hsingle 1 first _ hone with ⟨_hnumber, hfirst, words, hwords, hread⟩
  rcases hrow 2 _ _ hboth with ⟨_hlength, hall, parts, hparts, hreads⟩
  rw [List.append_assoc, gives_list_iff] at hwords
  rw [gives_list_iff] at hparts
  rw [← List.append_cancel_right hwords] at hread
  exact ⟨⟨by decide, hone, hboth⟩, hfirst, hread,
    (hall (0, second) (List.mem_cons_of_mem _ List.mem_cons_self)).right, parts, hparts, hreads⟩

end WellFormed

end Scenario

end CurrencyWallet
