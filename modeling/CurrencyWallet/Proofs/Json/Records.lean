import CurrencyWallet.Json.Codec
import CurrencyWallet.Proofs.Json.Printing
import CurrencyWallet.Proofs.Json.Reading

/-!
# Values survive their JSON form

A value of the domain is read from its JSON text as it was, with every digit and every trailing
zero. The order of the fields of a record does not matter and neither do members that are no
fields, whatever they are and however they are written.
-/

namespace CurrencyWallet

namespace Json

/-!
## Records
-/

/-- An object with these fields in any order, and with any members of other names among them. -/
def HasFields (fields : List (String × Json)) (j : Json) : Prop :=
  exists members others, j = .object members ∧ members.Perm (fields ++ others) ∧
    forall m, m ∈ others -> m.1 ∉ fields.map Prod.fst

theorem hasFields_object (fields : List (String × Json)) : HasFields fields (.object fields) := by
  refine ⟨fields, [], rfl, ?_, ?_⟩
  · rw [List.append_nil]
  · intro m hm
    cases hm

theorem membersNamed_of_notMem {members : List (String × Json)} {name : String}
    (h : name ∉ members.map Prod.fst) : membersNamed members name = [] := by
  have hnone : members.filter (fun m => m.1 = name) = [] := by
    rw [List.filter_eq_nil_iff]
    intro m hm hname
    apply h
    rw [← of_decide_eq_true hname]
    exact List.mem_map_of_mem hm
  rw [membersNamed, hnone, List.map_nil]

theorem membersNamed_append (members members' : List (String × Json)) (name : String) :
    membersNamed (members ++ members') name =
      membersNamed members name ++ membersNamed members' name := by
  rw [membersNamed, List.filter_append, List.map_append]
  rfl

theorem membersNamed_of_mem {fields : List (String × Json)} {name : String} {j : Json}
    (hnodup : (fields.map Prod.fst).Nodup) (h : (name, j) ∈ fields) :
    membersNamed fields name = [j] := by
  rcases List.append_of_mem h with ⟨before, after, rfl⟩
  rw [List.map_append, List.map_cons, List.nodup_append, List.nodup_cons] at hnodup
  rcases hnodup with ⟨_hbefore, ⟨hafter, _hrest⟩, hdisjoint⟩
  have hfirst : name ∉ before.map Prod.fst :=
    fun hmem => hdisjoint name hmem name List.mem_cons_self rfl
  have hcons : membersNamed ((name, j) :: after) name = j :: membersNamed after name := by
    simp [membersNamed]
  rw [membersNamed_append, membersNamed_of_notMem hfirst, List.nil_append, hcons,
    membersNamed_of_notMem hafter]

theorem membersNamed_of_perm {members fields others : List (String × Json)} {name : String} {j : Json}
    (hnodup : (fields.map Prod.fst).Nodup) (hperm : members.Perm (fields ++ others))
    (hothers : forall m, m ∈ others -> m.1 ∉ fields.map Prod.fst) (h : (name, j) ∈ fields) :
    membersNamed members name = [j] := by
  have hnamed : (membersNamed members name).Perm (membersNamed (fields ++ others) name) :=
    (hperm.filter _).map _
  have hforeign : name ∉ others.map Prod.fst := by
    intro hmem
    rcases List.mem_map.mp hmem with ⟨m, hm, rfl⟩
    exact hothers m hm (List.mem_map.mpr ⟨_, h, rfl⟩)
  rw [membersNamed_append, membersNamed_of_mem hnodup h, membersNamed_of_notMem hforeign,
    List.append_nil, List.perm_singleton] at hnamed
  exact hnamed

theorem fields?_of_hasFields {fields : List (String × Json)} {j : Json}
    (hnodup : (fields.map Prod.fst).Nodup) (h : HasFields fields j) :
    j.fields? (fields.map Prod.fst) = some (fields.map Prod.snd) := by
  rcases h with ⟨members, others, rfl, hperm, hothers⟩
  have hfound : forall fs, fs ⊆ fields -> (fs.map Prod.fst).mapM (onlyMember? members) =
      some (fs.map (fun f => some f.2)) := by
    intro fs
    induction fs with
    | nil =>
        intro _hsub
        rfl
    | cons f fs ih =>
        intro hsub
        have hnamed := membersNamed_of_perm hnodup hperm hothers (hsub List.mem_cons_self)
        rw [List.map_cons, List.mapM_cons, ih (fun f' hf' => hsub (List.mem_cons_of_mem f hf')),
          onlyMember?, hnamed]
        rfl
  have hall : forall js : List Json, (js.map some).mapM id = some js := by
    intro js
    induction js with
    | nil =>
        rfl
    | cons j js ih =>
        rw [List.map_cons, List.mapM_cons, ih]
        rfl
  rw [fields?, optionalFields?, hfound fields (List.Subset.refl _), Option.bind_some, ← hall (fields.map Prod.snd),
    List.map_map]
  rfl

end Json

/-!
## Values
-/

namespace Currency

theorem ofJson?_toJson (c : Currency) : ofJson? c.toJson = some c := by
  cases c <;> rfl

end Currency

namespace Decimal

theorem ofJson?_toJson {d : Decimal} (h : ¬ d.IsNegativeZero) : ofJson? d.toJson = some d :=
  parse?_toString h

end Decimal

namespace UserId

theorem ofJson?_toJson (id : UserId) : ofJson? id.toJson = some id :=
  parse?_toString id

end UserId

namespace CurrencyPair

def HasForm (p : CurrencyPair) (j : Json) : Prop :=
  exists fields, p.toJson = .object fields ∧ Json.HasFields fields j

theorem ofJson?_of_hasForm {p : CurrencyPair} {j : Json} (h : p.HasForm j) :
    ofJson? j = some p := by
  rcases h with ⟨fields, hfields, hrecord⟩
  cases hfields
  have hread : j.fields? ["from", "to"] = some [p.source.toJson, p.target.toJson] :=
    Json.fields?_of_hasFields (by simp) hrecord
  rw [ofJson?, hread]
  dsimp only
  rw [Currency.ofJson?_toJson, Currency.ofJson?_toJson]

end CurrencyPair

namespace Balances

def HasForm (b : Balances) (j : Json) : Prop :=
  exists fields, b.toJson = .object fields ∧ Json.HasFields fields j

theorem ofJson?_of_hasForm {b : Balances} {j : Json} (hb : forall c, ¬ (b.get c).IsNegativeZero)
    (h : b.HasForm j) : ofJson? j = some b := by
  rcases h with ⟨fields, hfields, hrecord⟩
  cases hfields
  have hread : j.fields? ["balance_rub", "balance_usd", "balance_eur"] =
      some [b.rub.toJson, b.usd.toJson, b.eur.toJson] :=
    Json.fields?_of_hasFields (by simp) hrecord
  have hrub : Decimal.ofJson? b.rub.toJson = some b.rub := Decimal.ofJson?_toJson (hb .rub)
  have husd : Decimal.ofJson? b.usd.toJson = some b.usd := Decimal.ofJson?_toJson (hb .usd)
  have heur : Decimal.ofJson? b.eur.toJson = some b.eur := Decimal.ofJson?_toJson (hb .eur)
  rw [ofJson?, hread]
  dsimp only
  rw [hrub, husd, heur]

end Balances

namespace Mutation

def HasForm (m : Mutation) (j : Json) : Prop :=
  exists kind fields record, m.toJson = .object [(kind, .object fields)] ∧
    Json.HasFields fields record ∧ j = .object [(kind, record)]

theorem exists_toJson (m : Mutation) : exists kind fields,
    m.toJson = .object [(kind, .object fields)] ∧
      forall field, field ∈ fields -> exists s, field.2 = .string s := by
  cases m with
  | deposit | withdraw | exchange =>
      exact ⟨_, _, rfl, by simp [Currency.toJson, Decimal.toJson]⟩

theorem legOfJson?_of_hasFields {currency : Currency} {amount : Decimal} {j : Json}
    (hamount : ¬ amount.IsNegativeZero)
    (h : Json.HasFields [("currency", currency.toJson), ("amount", amount.toJson)] j) :
    legOfJson? j = some (currency, amount) := by
  have hread : j.fields? ["currency", "amount"] = some [currency.toJson, amount.toJson] :=
    Json.fields?_of_hasFields (by simp) h
  rw [legOfJson?, hread]
  dsimp only
  rw [Currency.ofJson?_toJson, Decimal.ofJson?_toJson hamount]

theorem exchangeOfJson?_of_hasFields {source target : Currency} {debit credit : Decimal} {j : Json}
    (hdebit : ¬ debit.IsNegativeZero) (hcredit : ¬ credit.IsNegativeZero)
    (h : Json.HasFields [("from", source.toJson), ("to", target.toJson), ("debit", debit.toJson),
      ("credit", credit.toJson)] j) :
    exchangeOfJson? j = some (exchange source target debit credit) := by
  have hread : j.fields? ["from", "to", "debit", "credit"] =
      some [source.toJson, target.toJson, debit.toJson, credit.toJson] :=
    Json.fields?_of_hasFields (by simp) h
  rw [exchangeOfJson?, hread]
  dsimp only
  rw [Currency.ofJson?_toJson, Currency.ofJson?_toJson, Decimal.ofJson?_toJson hdebit,
    Decimal.ofJson?_toJson hcredit]

theorem ofJson?_of_hasForm {m : Mutation} {j : Json}
    (hm : forall d, d ∈ m.amounts -> ¬ d.IsNegativeZero) (h : m.HasForm j) :
    ofJson? j = some m := by
  rcases h with ⟨kind, fields, record, hfields, hrecord, rfl⟩
  cases m with
  | deposit currency amount =>
      cases hfields
      have hleg := legOfJson?_of_hasFields (hm amount List.mem_cons_self) hrecord
      rw [ofJson?, hleg, Option.map_some]
  | withdraw currency amount =>
      cases hfields
      have hleg := legOfJson?_of_hasFields (hm amount List.mem_cons_self) hrecord
      rw [ofJson?, hleg, Option.map_some]
  | exchange source target debit credit =>
      cases hfields
      exact exchangeOfJson?_of_hasFields (hm debit List.mem_cons_self)
        (hm credit (List.mem_cons_of_mem _ List.mem_cons_self)) hrecord

end Mutation

namespace Json

/-!
## Documents
-/

/-- A value is read from the document that is printed for it, and from every document whose value
has such a form. -/
structure RoundTrips {α : Type} (toJson : α -> Json) (ofJson? : Json -> Option α)
    (HasForm : Json -> Prop) (a : α) : Prop where
  printed : (parse? (toJson a).render).bind ofJson? = some a
  written : forall j text, HasForm j -> IsDocument j text -> (parse? text).bind ofJson? = some a

theorem RoundTrips.of_hasForm {α : Type} {toJson : α -> Json} {ofJson? : Json -> Option α}
    {HasForm : Json -> Prop} {a : α} (hprint : PartText (.value (toJson a)) (toJson a).print)
    (hself : HasForm (toJson a)) (hread : forall j, HasForm j -> ofJson? j = some a) :
    RoundTrips toJson ofJson? HasForm a := by
  have hwritten : forall j text, HasForm j -> IsDocument j text ->
      (parse? text).bind ofJson? = some a := by
    intro j text hj htext
    rw [parse?_of_isDocument htext, Option.bind_some, hread j hj]
  exact ⟨hwritten _ _ hself (isDocument_render hprint), hwritten⟩

/-- Reading the JSON text of a value gives the value. This is so for every text of the value:
the fields of records may stand in any order, with any other members among them. -/
theorem roundTrips :
    (forall c : Currency,
      RoundTrips Currency.toJson Currency.ofJson? (fun j => j = c.toJson) c) ∧
    (forall id : UserId, RoundTrips UserId.toJson UserId.ofJson? (fun j => j = id.toJson) id) ∧
    (forall p : CurrencyPair,
      RoundTrips CurrencyPair.toJson CurrencyPair.ofJson? p.HasForm p) ∧
    (forall b : Balances, (forall c, ¬ (b.get c).IsNegativeZero) ->
      RoundTrips Balances.toJson Balances.ofJson? b.HasForm b) ∧
    (forall m : Mutation, (forall d, d ∈ m.amounts -> ¬ d.IsNegativeZero) ->
      RoundTrips Mutation.toJson Mutation.ofJson? m.HasForm m) := by
  refine ⟨?_, ?_, ?_, ?_, ?_⟩
  · intro c
    refine .of_hasForm (partText_print_string c.code) rfl ?_
    rintro j rfl
    exact Currency.ofJson?_toJson c
  · intro id
    refine .of_hasForm (partText_print_string (toString id)) rfl ?_
    rintro j rfl
    exact UserId.ofJson?_toJson id
  · intro p
    apply RoundTrips.of_hasForm _ ⟨_, rfl, hasFields_object _⟩
    · exact fun j => CurrencyPair.ofJson?_of_hasForm
    · exact partText_print_fields (by simp [Currency.toJson])
  · intro b hb
    apply RoundTrips.of_hasForm _ ⟨_, rfl, hasFields_object _⟩
    · exact fun j => Balances.ofJson?_of_hasForm hb
    · exact partText_print_fields (by simp [Decimal.toJson])
  · intro m hm
    rcases m.exists_toJson with ⟨kind, fields, hfields, hstrings⟩
    apply RoundTrips.of_hasForm _ ⟨kind, fields, _, hfields, hasFields_object _, hfields⟩
    · exact fun j => Mutation.ofJson?_of_hasForm hm
    · rw [hfields]
      apply partText_print_object
      intro field hfield
      rw [List.mem_singleton.mp hfield]
      exact partText_print_fields hstrings

theorem roundTrips_widest :
    let b : Balances := ⟨⟨false, 2 ^ 96 - 1, 28, by decide, by decide⟩,
      ⟨true, 2 ^ 96 - 1, 0, by decide, by decide⟩, ⟨false, 0, 2, by decide, by decide⟩⟩
    let note := Json.object [("balance_rub", .string "0")]
    let j := Json.object [("note", note), ("balance_eur", b.eur.toJson),
      ("balance_usd", b.usd.toJson), ("balance_rub", b.rub.toJson)]
    let m := Mutation.exchange .rub .eur ⟨false, 110, 2, by decide, by decide⟩
      ⟨false, 1, 28, by decide, by decide⟩
    (forall c, ¬ (b.get c).IsNegativeZero) ∧ b.HasForm j ∧ IsDocument j j.render ∧
      (parse? j.render).bind Balances.ofJson? = some b ∧
      (forall d, d ∈ m.amounts -> ¬ d.IsNegativeZero) ∧
      (parse? m.toJson.render).bind Mutation.ofJson? = some m := by
  intro b note j m
  have hb : forall c, ¬ (b.get c).IsNegativeZero := by
    intro c
    cases c <;> decide
  have hform : b.HasForm j := by
    let fields := [("balance_rub", b.rub.toJson), ("balance_usd", b.usd.toJson),
      ("balance_eur", b.eur.toJson)]
    refine ⟨fields, rfl, _, [("note", note)], rfl,
      List.reverse_perm (fields ++ [("note", note)]), ?_⟩
    intro member hmember
    rw [List.mem_singleton.mp hmember]
    change "note" ∉ ["balance_rub", "balance_usd", "balance_eur"]
    decide
  have hnote : PartText (.value note) note.print := partText_print_fields (by simp)
  have htext : IsDocument j j.render := by
    apply isDocument_render
    apply partText_print_object
    intro member hmember
    rcases List.mem_cons.mp hmember with rfl | hfield
    · exact hnote
    · simp only [List.mem_cons, List.not_mem_nil, or_false] at hfield
      rcases hfield with rfl | rfl | rfl <;> exact partText_print_string _
  have hm : forall d, d ∈ m.amounts -> ¬ d.IsNegativeZero := by decide
  rcases roundTrips with ⟨_hcurrency, _hid, _hpair, hbalances, hmutation⟩
  exact ⟨hb, hform, htext, (hbalances b hb).written j _ hform htext, hm, (hmutation m hm).printed⟩

end Json

end CurrencyWallet
