import CurrencyWallet.Proofs.Amount
import CurrencyWallet.Proofs.Service.Exchange
import CurrencyWallet.Service.Request

/-!
# The fields of requests

Every field of a request has a rule of its own. A request is accepted when all its fields are as
their rules say, and otherwise the report names those that are not, each of them and no other.
-/

namespace CurrencyWallet

/-!
## Rules
-/

def IsCode (text : String) : Prop :=
  text.toList.length = 3 ∧ forall c, c ∈ text.toList -> c.isAlpha

namespace FieldRule

def Code (field : Option String) : Prop :=
  exists text, field = some text ∧ IsCode text

def Amount (field : Option Binary64) : Prop :=
  exists x d, field = some x ∧ Decimal.ofClient x = .ok d ∧ |d.value| < 10 ^ 18

end FieldRule

def WalletTransaction.rules (t : WalletTransaction) : List (String × Prop) :=
  [("currency", FieldRule.Code t.currency), ("amount", FieldRule.Amount t.amount)]

def ExchangeRequest.rules (r : ExchangeRequest) : List (String × Prop) :=
  [("from_currency", FieldRule.Code r.source), ("to_currency", FieldRule.Code r.target),
    ("amount", FieldRule.Amount r.amount)]

/-- Every field that breaks its rule is reported, once, and no other field is. -/
structure IsReport (rules : List (String × Prop)) (fields : List (String × String)) : Prop where
  nodup : (fields.map Prod.fst).Nodup
  mem_iff : forall field, field ∈ fields.map Prod.fst <->
    exists rule, (field, rule) ∈ rules ∧ ¬ rule

/-- A request is accepted when all rules hold, and what is then read of it has a property.
Otherwise the fields that break their rules are reported. -/
structure Validates {α : Type} (rules : List (String × Prop)) (read : α -> Prop)
    (result : Except ServiceError α) : Prop where
  accepts_iff : (exists v, result = .ok v) <-> forall rule, rule ∈ rules -> rule.2
  reads : forall v, result = .ok v -> read v
  reports : forall e, result = .error e -> exists fields, e = .invalidRequest fields ∧
    IsReport rules fields

/-!
## Currency codes
-/

namespace FieldFault

theorem isLetter_eq_isAlpha (c : Char) : isLetter c = c.isAlpha := by
  have hlower : c.isLower = ('a' ≤ c && c ≤ 'z') := rfl
  have hupper : c.isUpper = ('A' ≤ c && c ≤ 'Z') := Bool.decide_and _ _
  have halpha : c.isAlpha = (c.isUpper || c.isLower) := rfl
  rw [halpha, hlower, hupper, isLetter, Bool.or_comm]

theorem ofCode?_eq_none_iff {field : Option String} :
    ofCode? field = none <-> FieldRule.Code field := by
  cases field with
  | none => simp [ofCode?, FieldRule.Code]
  | some text =>
      have hcode : FieldRule.Code (some text) <-> IsCode text := by
        simp [FieldRule.Code]
      rw [hcode, IsCode, String.length_toList, ofCode?]
      by_cases hlength : text.length = 3
      · have hnonempty : ¬ text.isEmpty := by
          intro hempty
          rw [String.isEmpty_iff.mp hempty] at hlength
          cases hlength
        rw [if_neg hnonempty, if_neg (not_not.mpr hlength)]
        simp [hlength, isLetter_eq_isAlpha]
      · constructor
        · intro h
          rw [if_pos hlength] at h
          split at h <;> cases h
        · intro h
          exact absurd h.left hlength

end FieldFault

theorem isAlpha_of_isUpper_toUpper {c : Char} (h : c.toUpper.isUpper) : c.isAlpha := by
  have halpha : c.isAlpha = (c.isUpper || c.isLower) := rfl
  rw [halpha, Bool.or_eq_true]
  by_cases hlower : 'a'.val ≤ c.val ∧ c.val ≤ 'z'.val
  · right
    exact Bool.and_eq_true_iff.mpr ⟨decide_eq_true hlower.left, decide_eq_true hlower.right⟩
  · left
    have hsame : c.toUpper = c := dif_neg hlower
    rwa [hsame] at h

theorem Currency.IsNamedBy.isCode {text : String} {c : Currency} (h : c.IsNamedBy text) :
    IsCode text := by
  have hlength : c.code.toList.length = 3 := by
    cases c <;> decide
  have hletters : c.code.toList.all Char.isUpper := by
    cases c <;> decide
  rw [IsNamedBy] at h
  rw [← h, String.toList_map] at hlength hletters
  rw [List.length_map] at hlength
  rw [List.all_map, List.all_eq_true] at hletters
  exact ⟨hlength, fun a ha => isAlpha_of_isUpper_toUpper (hletters a ha)⟩

/-!
## Amounts
-/

namespace FieldFault

theorem checkAmount_eq_ok_iff {field : Option Binary64} {d : Decimal} :
    checkAmount field = .ok d <->
      exists x, field = some x ∧ Decimal.ofClient x = .ok d ∧ |d.value| < 10 ^ 18 := by
  cases field with
  | none => simp [checkAmount]
  | some x =>
      rw [checkAmount]
      cases hclient : Decimal.ofClient x with
      | error e => simp [hclient]
      | ok amount =>
          rw [← Decimal.inBalanceRange_iff]
          constructor
          · intro h
            dsimp only at h
            split at h
            next hrange =>
              cases h
              exact ⟨x, rfl, hclient, hrange⟩
            next =>
              cases h
          · intro h
            rcases h with ⟨x', hx, hd, hrange⟩
            cases hx
            rw [hclient] at hd
            cases hd
            exact if_pos hrange

def ofAmount? (field : Option Binary64) : Option FieldFault :=
  match checkAmount field with
  | .ok _ => none
  | .error fault => some fault

theorem ofAmount?_eq_none {field : Option Binary64} :
    ofAmount? field = none <-> exists d, checkAmount field = .ok d := by
  rw [ofAmount?]
  cases checkAmount field with
  | error fault => simp
  | ok d => simp

theorem ofAmount?_eq_none_iff {field : Option Binary64} :
    ofAmount? field = none <-> FieldRule.Amount field := by
  rw [ofAmount?_eq_none]
  simp only [checkAmount_eq_ok_iff]
  exact exists_comm

end FieldFault

/-!
## Reports
-/

namespace FieldFault

def reported (faults : List (String × Option FieldFault)) : List (String × String) :=
  faults.filterMap (fun f => f.2.map (entry f.1))

theorem mem_reported_iff {faults : List (String × Option FieldFault)} {field message : String} :
    (field, message) ∈ reported faults <->
      exists fault, (field, some fault) ∈ faults ∧ message = fault.message := by
  rw [reported, List.mem_filterMap]
  constructor
  · intro h
    rcases h with ⟨⟨name, fault?⟩, hmem, hentry⟩
    rcases Option.map_eq_some_iff.mp hentry with ⟨fault, hfault, hpair⟩
    cases hpair
    cases hfault
    exact ⟨fault, hmem, rfl⟩
  · intro h
    rcases h with ⟨fault, hmem, rfl⟩
    exact ⟨(field, some fault), hmem, rfl⟩

/-- The fields are those that have rules, and a field is without fault when its rule holds. -/
def Follow (faults : List (String × Option FieldFault)) (rules : List (String × Prop)) : Prop :=
  List.Forall₂ (fun f r => f.1 = r.1 ∧ (f.2 = none <-> r.2)) faults rules

variable {faults : List (String × Option FieldFault)} {rules : List (String × Prop)}

theorem Follow.all_none_iff (h : Follow faults rules) :
    (forall f, f ∈ faults -> f.2 = none) <-> forall r, r ∈ rules -> r.2 := by
  induction h with
  | nil => simp
  | cons hhead _ ih => simp only [List.forall_mem_cons, hhead.right, ih]

theorem Follow.map_fst (h : Follow faults rules) : faults.map Prod.fst = rules.map Prod.fst := by
  induction h with
  | nil => rfl
  | cons hhead _ ih => rw [List.map_cons, List.map_cons, hhead.left, ih]

theorem Follow.mem_fault_iff (h : Follow faults rules) (field : String) :
    (exists fault, (field, some fault) ∈ faults) <->
      exists rule, (field, rule) ∈ rules ∧ ¬ rule := by
  induction h with
  | nil => simp
  | @cons f r faults rules hhead _ ih =>
      rcases f with ⟨name, fault?⟩
      rcases r with ⟨name', rule⟩
      rcases hhead with ⟨rfl, hrule⟩
      dsimp only at hrule
      simp only [List.mem_cons, Prod.mk.injEq, or_and_right, exists_or, ih]
      apply or_congr_left
      cases fault? with
      | none =>
          have hkept : rule := hrule.mp rfl
          simp [hkept]
      | some fault =>
          have hbroken : ¬ rule := fun hkept => Option.some_ne_none fault (hrule.mpr hkept)
          simp [hbroken]

theorem keys_sublist (faults : List (String × Option FieldFault)) :
    ((reported faults).map Prod.fst).Sublist (faults.map Prod.fst) := by
  induction faults with
  | nil => exact List.Sublist.refl []
  | cons f faults ih =>
      rcases f with ⟨name, fault?⟩
      cases fault? with
      | none => exact ih.cons name
      | some fault => exact ih.cons_cons name

/-- A report names the fields whose rules are broken. -/
theorem Follow.isReport (h : Follow faults rules) (hnodup : (rules.map Prod.fst).Nodup) :
    IsReport rules (reported faults) where
  nodup := by
    rw [← h.map_fst] at hnodup
    exact hnodup.sublist (keys_sublist faults)
  mem_iff := by
    intro field
    rw [← h.mem_fault_iff, List.mem_map]
    constructor
    · intro hkey
      rcases hkey with ⟨⟨name, message⟩, hmem, rfl⟩
      rcases mem_reported_iff.mp hmem with ⟨fault, hfault, _⟩
      exact ⟨fault, hfault⟩
    · intro hfault
      rcases hfault with ⟨fault, hmem⟩
      exact ⟨(field, fault.message), mem_reported_iff.mpr ⟨fault, hmem, rfl⟩, rfl⟩

def Settled {α : Type} (faults : List (String × Option FieldFault)) (read : α -> Prop)
    (result : Except ServiceError α) : Prop :=
  (exists v, result = .ok v ∧ read v ∧ forall f, f ∈ faults -> f.2 = none) ∨
    (result = .error (.invalidRequest (reported faults)) ∧ exists f, f ∈ faults ∧ f.2 ≠ none)

theorem Follow.validates {α : Type} {result : Except ServiceError α} {read : α -> Prop}
    (h : Follow faults rules) (hnodup : (rules.map Prod.fst).Nodup)
    (hsettled : Settled faults read result) : Validates rules read result := by
  rcases hsettled with ⟨v, hv, hread, hnone⟩ | ⟨herror, f, hmem, hfault⟩
  · refine ⟨⟨fun _ => h.all_none_iff.mp hnone, fun _ => ⟨v, hv⟩⟩, ?_, ?_⟩
    · intro v' hv'
      rw [hv] at hv'
      rwa [← Except.ok.inj hv']
    · intro e he
      rw [hv] at he
      cases he
  · refine ⟨⟨?_, ?_⟩, ?_, ?_⟩
    · intro haccepted
      rcases haccepted with ⟨v, hv⟩
      rw [herror] at hv
      cases hv
    · intro hrules
      exact absurd (h.all_none_iff.mpr hrules f hmem) hfault
    · intro v hv
      rw [herror] at hv
      cases hv
    · intro e he
      rw [herror] at he
      exact ⟨_, (Except.error.inj he).symm, h.isReport hnodup⟩

end FieldFault

/-!
## Requests
-/

open FieldFault

theorem FieldFault.eq_some_getD_of_ofCode? {field : Option String} (h : ofCode? field = none) :
    field = some (field.getD "") := by
  rcases ofCode?_eq_none_iff.mp h with ⟨text, rfl, _⟩
  rfl

namespace WalletTransaction

def faults (t : WalletTransaction) : List (String × Option FieldFault) :=
  [("currency", ofCode? t.currency), ("amount", ofAmount? t.amount)]

structure ReadAs (t : WalletTransaction) (v : ValidTransaction) : Prop where
  currency : t.currency = some v.currency
  amount : exists x, t.amount = some x ∧ Decimal.ofClient x = .ok v.amount

theorem follow (t : WalletTransaction) : Follow t.faults t.rules :=
  .cons ⟨rfl, ofCode?_eq_none_iff⟩ (.cons ⟨rfl, ofAmount?_eq_none_iff⟩ .nil)

theorem settled_validate (t : WalletTransaction) : Settled t.faults t.ReadAs t.validate := by
  rw [validate, faults, ofAmount?]
  cases hamount : checkAmount t.amount with
  | ok amount =>
      cases hcode : ofCode? t.currency with
      | none =>
          rcases checkAmount_eq_ok_iff.mp hamount with ⟨x, hx, hclient, _⟩
          exact .inl ⟨_, rfl, ⟨eq_some_getD_of_ofCode? hcode, x, hx, hclient⟩, by simp⟩
      | some fault => exact .inr ⟨rfl, by simp⟩
  | error fault =>
      refine .inr ⟨?_, by simp⟩
      cases ofCode? t.currency <;> rfl

theorem validates_validate (t : WalletTransaction) : Validates t.rules t.ReadAs t.validate :=
  t.follow.validates (by simp [rules]) t.settled_validate

end WalletTransaction

namespace ExchangeRequest

def faults (r : ExchangeRequest) : List (String × Option FieldFault) :=
  [("from_currency", ofCode? r.source), ("to_currency", ofCode? r.target),
    ("amount", ofAmount? r.amount)]

structure ReadAs (r : ExchangeRequest) (v : ValidExchange) : Prop where
  source : r.source = some v.source
  target : r.target = some v.target
  amount : exists x, r.amount = some x ∧ Decimal.ofClient x = .ok v.amount

theorem follow (r : ExchangeRequest) : Follow r.faults r.rules :=
  .cons ⟨rfl, ofCode?_eq_none_iff⟩ (.cons ⟨rfl, ofCode?_eq_none_iff⟩
    (.cons ⟨rfl, ofAmount?_eq_none_iff⟩ .nil))

theorem settled_validate (r : ExchangeRequest) : Settled r.faults r.ReadAs r.validate := by
  rw [validate, faults, ofAmount?]
  cases hamount : checkAmount r.amount with
  | ok amount =>
      cases hsource : ofCode? r.source with
      | none =>
          cases htarget : ofCode? r.target with
          | none =>
              rcases checkAmount_eq_ok_iff.mp hamount with ⟨x, hx, hclient, _⟩
              exact .inl ⟨_, rfl, ⟨eq_some_getD_of_ofCode? hsource, eq_some_getD_of_ofCode? htarget,
                x, hx, hclient⟩, by simp⟩
          | some fault => exact .inr ⟨rfl, by simp⟩
      | some fault =>
          refine .inr ⟨?_, by simp⟩
          cases ofCode? r.target <;> rfl
  | error fault =>
      refine .inr ⟨?_, by simp⟩
      cases ofCode? r.source <;> cases ofCode? r.target <;> rfl

theorem validates_validate (r : ExchangeRequest) : Validates r.rules r.ReadAs r.validate :=
  r.follow.validates (by simp [rules]) r.settled_validate

end ExchangeRequest

/-- Requests are accepted exactly if all fields follow their rules, and the fields that do not are
reported. What names a currency always follows the rule for codes. -/
theorem validates_requests :
    (forall t : WalletTransaction, Validates t.rules t.ReadAs t.validate) ∧
      (forall r : ExchangeRequest, Validates r.rules r.ReadAs r.validate) ∧
      forall (text : String) (c : Currency), Currency.parse text = .ok c -> IsCode text := by
  refine ⟨fun t => t.validates_validate, fun r => r.validates_validate, ?_⟩
  intro text c h
  exact (Currency.parse_eq_ok_iff.mp h).isCode

theorem validates_requests_three_faults :
    let r : ExchangeRequest := ⟨some "R1B", none, some ⟨0x7ff8000000000000⟩⟩
    let fields := [("from_currency", "is invalid"), ("to_currency", "is required"),
      ("amount", "is invalid")]
    r.validate = .error (.invalidRequest fields) ∧ IsReport r.rules fields ∧
      Currency.parse "uSd" = .ok .usd ∧ IsCode "uSd" := by
  intro r fields
  have hrefused : r.validate = .error (.invalidRequest fields) := by decide +kernel
  have hnamed : Currency.parse "uSd" = .ok .usd := by decide +kernel
  rcases validates_requests with ⟨_, hexchange, hcode⟩
  rcases (hexchange r).reports _ hrefused with ⟨fields', hfields, hreport⟩
  cases hfields
  exact ⟨hrefused, hreport, hnamed, hcode "uSd" .usd hnamed⟩

end CurrencyWallet
