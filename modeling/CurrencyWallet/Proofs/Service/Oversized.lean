import CurrencyWallet.Proofs.Service.Isolation
import CurrencyWallet.Proofs.Service.Request

/-!
# Amounts that are too large

What is said of an amount depends on its size alone, whatever else a request holds. From
`10 ^ 18` on it is out of range. From `2 ^ 96` on there is no decimal for it any more, and it is
said to be invalid, like an amount that is no number.
-/

namespace CurrencyWallet

open FieldFault

/-!
## One field of a report
-/

theorem FieldFault.message_injective : Function.Injective FieldFault.message := by
  intro a b h
  cases a <;> cases b <;> simp [message] at h ⊢

/-- The request is refused, and exactly this fault is found in the field. -/
def Refuses {α : Type} (field : String) (fault : FieldFault) (result : Except ServiceError α) :
    Prop :=
  exists fields, result = .error (.invalidRequest fields) ∧
    forall message, (field, message) ∈ fields <-> message = fault.message

theorem FieldFault.Settled.refuses_iff {α : Type} {faults : List (String × Option FieldFault)}
    {read : α -> Prop} {result : Except ServiceError α} (h : Settled faults read result)
    {field : String} {verdict : Option FieldFault}
    (hverdict : forall fault?, (field, fault?) ∈ faults <-> fault? = verdict) {fault : FieldFault} :
    Refuses field fault result <-> verdict = some fault := by
  have hmem : forall message, (field, message) ∈ reported faults <->
      exists fault, verdict = some fault ∧ message = fault.message := by
    intro message
    rw [mem_reported_iff]
    simp only [hverdict, eq_comm]
  constructor
  · intro hrefused
    rcases hrefused with ⟨fields, hfields, hmessages⟩
    rcases h with ⟨v, hv, _⟩ | ⟨herror, _⟩
    · rw [hv] at hfields
      cases hfields
    · rw [herror] at hfields
      cases hfields
      have hfound := (hmem fault.message).mp ((hmessages fault.message).mpr rfl)
      rcases hfound with ⟨fault', hfault', hsame⟩
      rw [hfault', message_injective hsame]
  · intro hfault
    rcases h with ⟨v, _, _, hnone⟩ | ⟨herror, _⟩
    · cases hnone _ ((hverdict _).mpr hfault.symm)
    · refine ⟨_, herror, fun message => ?_⟩
      rw [hmem, hfault]
      simp

/-!
## Verdicts
-/

namespace FieldFault

theorem ofAmount?_some (x : Binary64) : ofAmount? (some x) =
    if ¬ x.IsFinite ∨ 2 ^ 96 ≤ |x.value| then some invalid
    else if 10 ^ 18 ≤ |x.value| then some outOfRange
    else none := by
  rw [ofAmount?, checkAmount]
  cases hclient : Decimal.ofClient x with
  | error e =>
      rw [if_pos (Decimal.ofClient_eq_error_iff.mp hclient).right]
  | ok d =>
      have hconverted : ¬ (¬ x.IsFinite ∨ 2 ^ 96 ≤ |x.value|) := by
        intro hlarge
        have herror := Decimal.ofClient_eq_error_iff.mpr ⟨rfl, hlarge⟩
        rw [hclient] at herror
        cases herror
      have hrange := Decimal.inBalanceRange_of_ofClient hclient
      rw [if_neg hconverted]
      by_cases hlarge : 10 ^ 18 ≤ |x.value|
      · have hnot : ¬ d.InBalanceRange := fun h => not_lt.mpr hlarge (hrange.mp h)
        rw [if_pos hlarge]
        simp [hnot]
      · have hfits : d.InBalanceRange := hrange.mpr (not_le.mp hlarge)
        rw [if_neg hlarge]
        simp [hfits]

theorem ofAmount?_eq_outOfRange_iff {x : Binary64} : ofAmount? (some x) = some outOfRange <->
    x.IsFinite ∧ 10 ^ 18 ≤ |x.value| ∧ |x.value| < 2 ^ 96 := by
  rw [ofAmount?_some]
  by_cases hlost : ¬ x.IsFinite ∨ 2 ^ 96 ≤ |x.value|
  · rw [if_pos hlost]
    constructor
    · intro h
      cases h
    · intro h
      rcases hlost with hinfinite | hhuge
      · exact absurd h.left hinfinite
      · exact absurd h.right.right (not_lt.mpr hhuge)
  · rw [if_neg hlost]
    rw [not_or, not_not, not_le] at hlost
    by_cases hlarge : 10 ^ 18 ≤ |x.value|
    · rw [if_pos hlarge]
      exact ⟨fun _ => ⟨hlost.left, hlarge, hlost.right⟩, fun _ => rfl⟩
    · rw [if_neg hlarge]
      constructor
      · intro h
        cases h
      · intro h
        exact absurd h.right.left hlarge

theorem ofAmount?_eq_invalid_iff {x : Binary64} : ofAmount? (some x) = some invalid <->
    ¬ x.IsFinite ∨ 2 ^ 96 ≤ |x.value| := by
  rw [ofAmount?_some]
  by_cases hlost : ¬ x.IsFinite ∨ 2 ^ 96 ≤ |x.value|
  · rw [if_pos hlost]
    exact ⟨fun _ => hlost, fun _ => rfl⟩
  · rw [if_neg hlost]
    constructor
    · intro h
      split at h <;> cases h
    · intro h
      exact absurd h hlost

end FieldFault

structure Verdicts {α : Type} (x : Binary64) (result : Except ServiceError α) : Prop where
  outOfRange_iff : Refuses "amount" .outOfRange result <->
    x.IsFinite ∧ 10 ^ 18 ≤ |x.value| ∧ |x.value| < 2 ^ 96
  invalid_iff : Refuses "amount" .invalid result <-> ¬ x.IsFinite ∨ 2 ^ 96 ≤ |x.value|

section Verdicts

variable {α : Type} {faults : List (String × Option FieldFault)} {read : α -> Prop}
  {result : Except ServiceError α} {x : Binary64}

theorem FieldFault.Settled.verdicts (h : Settled faults read result)
    (hverdict : forall fault?, ("amount", fault?) ∈ faults <-> fault? = ofAmount? (some x)) :
    Verdicts x result where
  outOfRange_iff := by
    rw [h.refuses_iff hverdict, ofAmount?_eq_outOfRange_iff]
  invalid_iff := by
    rw [h.refuses_iff hverdict, ofAmount?_eq_invalid_iff]

theorem WalletTransaction.verdicts_validate {t : WalletTransaction} (hx : t.amount = some x) :
    Verdicts x t.validate :=
  t.settled_validate.verdicts (by simp [faults, hx])

theorem ExchangeRequest.verdicts_validate {r : ExchangeRequest} (hx : r.amount = some x) :
    Verdicts x r.validate :=
  r.settled_validate.verdicts (by simp [faults, hx])

def oversizedFault (x : Binary64) : FieldFault :=
  if |x.value| < 2 ^ 96 then .outOfRange else .invalid

theorem Verdicts.refuses_oversized (h : Verdicts x result) (hfinite : x.IsFinite)
    (hlarge : 10 ^ 18 ≤ |x.value|) : Refuses "amount" (oversizedFault x) result := by
  rw [oversizedFault]
  split
  next hsmall => exact h.outOfRange_iff.mpr ⟨hfinite, hlarge, hsmall⟩
  next hhuge => exact h.invalid_iff.mpr (.inr (not_lt.mp hhuge))

end Verdicts

/-!
## At the desk
-/

def Request.amount? : Request -> Option Binary64
  | .register _ => none
  | .balance _ => none
  | .deposit _ body => body.amount
  | .withdraw _ body => body.amount
  | .rates => none
  | .exchange _ body => body.amount

namespace Desk

theorem refuses_handle (d : Desk) (timeout : Nat) (id : UserId) {user : UserId} {r : Request}
    {x : Binary64} (hby : r.IsBy user) (hx : r.amount? = some x) (hfinite : x.IsFinite)
    (hlarge : 10 ^ 18 ≤ |x.value|) :
    Refuses "amount" (oversizedFault x) (d.handle timeout id r).1 ∧
      (d.handle timeout id r).2 = d := by
  rcases hby with rfl | ⟨text, hnamed, huser⟩
  · cases hx
  · have hparse : parseUser text = .ok user := by
      rw [parseUser, huser]
    cases r with
    | register user =>
        cases hnamed
    | rates =>
        cases hnamed
    | balance user =>
        cases hx
    | deposit user body =>
        cases hnamed
        rcases (body.verdicts_validate hx).refuses_oversized hfinite hlarge with
          ⟨fields, herror, hmessages⟩
        rw [handle, answer, readTransaction, hparse, herror]
        exact ⟨⟨fields, rfl, hmessages⟩, rfl⟩
    | withdraw user body =>
        cases hnamed
        rcases (body.verdicts_validate hx).refuses_oversized hfinite hlarge with
          ⟨fields, herror, hmessages⟩
        rw [handle, answer, readTransaction, hparse, herror]
        exact ⟨⟨fields, rfl, hmessages⟩, rfl⟩
    | exchange user body =>
        cases hnamed
        rcases (body.verdicts_validate hx).refuses_oversized hfinite hlarge with
          ⟨fields, herror, hmessages⟩
        rw [handle, answer, readExchange, hparse, herror]
        exact ⟨⟨fields, rfl, hmessages⟩, rfl⟩

/-- Every oversized amount is refused, the same in all requests. It is said to be out of range
below `2 ^ 96`, and invalid from there on. -/
theorem amount_verdicts (x : Binary64) :
    (forall t : WalletTransaction, t.amount = some x -> Verdicts x t.validate) ∧
      (forall r : ExchangeRequest, r.amount = some x -> Verdicts x r.validate) ∧
      forall (d : Desk) (timeout : Nat) (id user : UserId) (r : Request),
        r.IsBy user -> r.amount? = some x -> x.IsFinite -> 10 ^ 18 ≤ |x.value| ->
        Refuses "amount" (oversizedFault x) (d.handle timeout id r).1 ∧
          (d.handle timeout id r).2 = d := by
  refine ⟨fun t hx => t.verdicts_validate hx, fun r hx => r.verdicts_validate hx, ?_⟩
  intro d timeout id user r hby hx hfinite hlarge
  exact d.refuses_handle timeout id hby hx hfinite hlarge

theorem amount_verdicts_largest :
    let x : Binary64 := ⟨0x45efffffffffffff⟩
    let d := start (Ledger.empty.openWallet default .zero) {} ListedRates.empty.provider
    let r : Request := .withdraw "00000000-0000-0000-0000-000000000000" ⟨some x, some "USD"⟩
    x.IsFinite ∧ 10 ^ 18 ≤ |x.value| ∧ |x.value| < 2 ^ 96 ∧
      Refuses "amount" .outOfRange (d.handle 5000 default r).1 ∧
      (d.handle 5000 default r).2 = d := by
  intro x d r
  have hfinite : x.IsFinite := by decide
  have hdigits : x.significand = 2 ^ 53 - 1 := by decide +kernel
  have hexponent : x.exponent = 43 := by decide +kernel
  have hvalue : |x.value| = (2 ^ 53 - 1) * 2 ^ 43 := by
    rw [x.abs_value, hdigits, hexponent]
    norm_num
  have hlarge : 10 ^ 18 ≤ |x.value| := by norm_num [hvalue]
  have hsmall : |x.value| < 2 ^ 96 := by norm_num [hvalue]
  have hby : r.IsBy (UserId.ofNat 0) := .inr ⟨_, rfl, by decide +kernel⟩
  rcases amount_verdicts x with ⟨_, _, hhandle⟩
  rcases hhandle d 5000 default _ r hby rfl hfinite hlarge with ⟨hrefused, hsame⟩
  rw [oversizedFault, if_pos hsmall] at hrefused
  exact ⟨hfinite, hlarge, hsmall, hrefused, hsame⟩

/-- There is no decimal for `10 ^ 29`, and the amount is called invalid for it. -/
theorem oversized_amount_called_invalid :
    let x : Binary64 := ⟨0x45f431e0fae6d721⟩
    let t : WalletTransaction := ⟨some x, some "USD"⟩
    x.IsFinite ∧ 10 ^ 18 ≤ |x.value| ∧
      t.validate = .error (.invalidRequest [("amount", "is invalid")]) ∧
      ¬ Refuses "amount" .outOfRange t.validate := by
  intro x t
  have hrefused : t.validate = .error (.invalidRequest [("amount", "is invalid")]) := by
    decide +kernel
  have hdigits : x.significand = 5684341886080801 := by decide +kernel
  have hexponent : x.exponent = 44 := by decide +kernel
  refine ⟨by decide, ?_, hrefused, ?_⟩
  · rw [x.abs_value, hdigits, hexponent]
    norm_num
  · intro h
    rcases h with ⟨fields, hfields, hmessages⟩
    rw [hrefused] at hfields
    cases hfields
    have hfound := (hmessages "is invalid").mp (List.mem_singleton.mpr rfl)
    exact absurd hfound (by decide)

end Desk

end CurrencyWallet
