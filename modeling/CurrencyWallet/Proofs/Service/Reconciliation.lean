import CurrencyWallet.Proofs.Service.Effects
import CurrencyWallet.Proofs.Service.Request

/-!
# Reconciliation

The books can be checked against what clients have been told. Over any history, what a user
holds of a currency changes by the deposits, withdrawals and exchanges that have been
answered with success, and by nothing else. Nothing is lost to rounding: a request names an
amount of at most two fractional digits, and what is given for it has at most ten.
-/

namespace CurrencyWallet

/-!
## Validated amounts
-/

theorem WalletTransaction.scale_le_of_validate {body : WalletTransaction} {t : ValidTransaction}
    (h : body.validate = .ok t) : t.amount.scale ≤ Decimal.amountPlaces := by
  rcases (body.validates_validate.reads t h).amount with ⟨x, _hx, hclient⟩
  exact Decimal.scale_le_of_ofClient hclient

theorem ExchangeRequest.scale_le_of_validate {body : ExchangeRequest} {t : ValidExchange}
    (h : body.validate = .ok t) : t.amount.scale ≤ Decimal.amountPlaces := by
  rcases (body.validates_validate.reads t h).amount with ⟨x, _hx, hclient⟩
  exact Decimal.scale_le_of_ofClient hclient

theorem Request.scale_le_of_order? {r : Request} {o : Order} (h : r.order? = some o) :
    o.amount.scale ≤ Decimal.amountPlaces := by
  cases r with
  | register user =>
      cases h
  | balance user =>
      cases h
  | rates =>
      cases h
  | deposit text body =>
      rcases Option.bind_eq_some_iff.mp h with ⟨user, _huser, h⟩
      rcases Option.bind_eq_some_iff.mp h with ⟨t, hbody, h⟩
      rcases Option.bind_eq_some_iff.mp h with ⟨c, _hcode, h⟩
      cases h
      exact WalletTransaction.scale_le_of_validate (toOption_eq_some_iff.mp hbody)
  | withdraw text body =>
      rcases Option.bind_eq_some_iff.mp h with ⟨user, _huser, h⟩
      rcases Option.bind_eq_some_iff.mp h with ⟨t, hbody, h⟩
      rcases Option.bind_eq_some_iff.mp h with ⟨c, _hcode, h⟩
      cases h
      exact WalletTransaction.scale_le_of_validate (toOption_eq_some_iff.mp hbody)
  | exchange text body =>
      rcases Option.bind_eq_some_iff.mp h with ⟨user, _huser, h⟩
      rcases Option.bind_eq_some_iff.mp h with ⟨t, hbody, h⟩
      rcases Option.bind_eq_some_iff.mp h with ⟨source, _hsource, h⟩
      rcases Option.bind_eq_some_iff.mp h with ⟨target, _htarget, h⟩
      cases h
      exact ExchangeRequest.scale_le_of_validate (toOption_eq_some_iff.mp hbody)

/-!
## What an answered order counts for
-/

namespace Order

section Counting

variable (u : UserId) (c : Currency)

def deposited : Order -> Success -> ℚ
  | deposit user currency amount, _ => if u = user ∧ c = currency then amount.value else 0
  | _, _ => 0

def withdrawn : Order -> Success -> ℚ
  | withdraw user currency amount, _ => if u = user ∧ c = currency then amount.value else 0
  | _, _ => 0

def given : Order -> Success -> ℚ
  | exchange user pair amount, _ => if u = user ∧ c = pair.source then amount.value else 0
  | _, _ => 0

def received : Order -> Success -> ℚ
  | exchange user pair _, .exchanged credit _ =>
      if u = user ∧ c = pair.target then credit.value else 0
  | _, _ => 0

def net (o : Order) (s : Success) : ℚ :=
  o.deposited u c s - o.withdrawn u c s - o.given u c s + o.received u c s

end Counting

section Carried

variable {o : Order} {m : Mutation} {b : Balances} {s : Success} (h : o.Carried m b s)

include h

theorem Carried.isPositive : m.IsPositive := by
  cases h with
  | deposit hpos =>
      exact hpos
  | withdraw hpos =>
      exact hpos
  | exchange hrate hcompute =>
      exact isPositive_of_compute hcompute hrate _ _

theorem Carried.fitsPlaces (hplaces : o.amount.scale ≤ Decimal.amountPlaces) : m.FitsPlaces := by
  have hbalance : o.amount.scale ≤ Decimal.balancePlaces := Nat.le_trans hplaces (by decide)
  cases h with
  | deposit _hpos =>
      intro x hx
      rw [List.mem_singleton.mp hx]
      exact hbalance
  | withdraw _hpos =>
      intro x hx
      rw [List.mem_singleton.mp hx]
      exact hbalance
  | exchange _hrate hcompute =>
      exact fitsPlaces_of_compute hcompute _ _

/-- What is booked for an order is what the order counts for. -/
theorem Carried.change_eq_net (hplaces : o.amount.scale ≤ Decimal.amountPlaces) (u : UserId)
    (c : Currency) : (if u = o.user then m.change c else 0) = o.net u c s := by
  by_cases hu : u = o.user
  · rw [if_pos hu]
    cases h with
    | deposit _hpos =>
        simp [net, deposited, withdrawn, given, received, Mutation.change, hu, Order.user]
    | withdraw _hpos =>
        rename_i user currency amount
        by_cases hc : c = currency
        · simp [net, deposited, withdrawn, given, received, Mutation.change, hu, Order.user, hc]
        · simp [net, deposited, withdrawn, given, received, Mutation.change, hc]
    | exchange _hrate hcompute =>
        rename_i user pair amount rate conversion
        have hdebit : conversion.debit = amount := by
          rw [(compute_eq_ok hcompute).left]
          exact Decimal.round_of_scale_le hplaces
        by_cases hsource : c = pair.source
        · simp [net, deposited, withdrawn, given, received, Mutation.change, hu, Order.user,
            hsource, hdebit]
        · simp [net, deposited, withdrawn, given, received, Mutation.change, hu, Order.user,
            hsource]
  · rw [if_neg hu]
    cases h with
    | deposit _hpos =>
        simp_all [net, deposited, withdrawn, given, received, Order.user]
    | withdraw _hpos =>
        simp_all [net, deposited, withdrawn, given, received, Order.user]
    | exchange _hrate _hcompute =>
        simp_all [net, deposited, withdrawn, given, received, Order.user]

end Carried

end Order

/-!
## The log of a history
-/

def DeskEvent.request? : DeskEvent -> Option Request
  | request _ r => some r
  | _ => none

def DeskEvent.registration? : DeskEvent -> Option UserId
  | request id (.register _) => some id
  | _ => none

/-- No id is handed out twice, or to somebody while another has a wallet under it. -/
def Ledger.FreshIds (l : Ledger) (es : List DeskEvent) : Prop :=
  (es.filterMap DeskEvent.registration?).Nodup ∧
    forall id, id ∈ es.filterMap DeskEvent.registration? -> l.wallets.get? id = none

instance (l : Ledger) (es : List DeskEvent) : Decidable (l.FreshIds es) :=
  inferInstanceAs (Decidable (_ ∧ _))

/-- What a request with this answer counts for. Only an order that is answered with success
counts for anything. -/
def counted (f : Order -> Success -> ℚ) (r : Request) (result : Except ServiceError Success) : ℚ :=
  match r.order?, result with
  | some o, .ok s => f o s
  | _, _ => 0

def tally (f : Order -> Success -> ℚ) (log : List (Request × Except ServiceError Success)) : ℚ :=
  (log.map fun entry => counted f entry.1 entry.2).sum

def Desk.log (timeout : Nat) (d : Desk) (es : List DeskEvent) :
    List (Request × Except ServiceError Success) :=
  (es.filterMap DeskEvent.request?).zip (d.run timeout es).1

theorem counted_error (f : Order -> Success -> ℚ) (r : Request) (e : ServiceError) :
    counted f r (.error e) = 0 := by
  unfold counted
  cases r.order? with
  | none =>
      rfl
  | some o =>
      rfl

theorem counted_of_order?_eq_none (f : Order -> Success -> ℚ) {r : Request}
    (h : r.order? = none) (result : Except ServiceError Success) : counted f r result = 0 := by
  unfold counted
  rw [h]

theorem counted_of_order? (f : Order -> Success -> ℚ) {r : Request} {o : Order}
    (h : r.order? = some o) (s : Success) : counted f r (.ok s) = f o s := by
  unfold counted
  rw [h]

theorem tally_nil (f : Order -> Success -> ℚ) : tally f [] = 0 :=
  rfl

theorem tally_cons (f : Order -> Success -> ℚ) (r : Request)
    (result : Except ServiceError Success) (log : List (Request × Except ServiceError Success)) :
    tally f ((r, result) :: log) = counted f r result + tally f log :=
  rfl

theorem counted_net (u : UserId) (c : Currency) (r : Request)
    (result : Except ServiceError Success) :
    counted (Order.net u c) r result =
      counted (Order.deposited u c) r result - counted (Order.withdrawn u c) r result -
        counted (Order.given u c) r result + counted (Order.received u c) r result := by
  cases horder : r.order? with
  | none =>
      simp [counted, horder]
  | some o =>
      cases result with
      | error e =>
          simp [counted, horder]
      | ok s =>
          simp [counted, horder, Order.net]

theorem tally_net (u : UserId) (c : Currency)
    (log : List (Request × Except ServiceError Success)) :
    tally (Order.net u c) log =
      tally (Order.deposited u c) log - tally (Order.withdrawn u c) log -
        tally (Order.given u c) log + tally (Order.received u c) log := by
  induction log with
  | nil =>
      simp [tally_nil]
  | cons entry log ih =>
      rcases entry with ⟨r, result⟩
      rw [tally_cons, tally_cons, tally_cons, tally_cons, tally_cons, counted_net, ih]
      ring

namespace Desk

variable (timeout : Nat) (d : Desk) (es : List DeskEvent)

theorem run_request (id : UserId) (r : Request) :
    (d.run timeout (.request id r :: es)).2 = ((d.handle timeout id r).2.run timeout es).2 :=
  rfl

theorem log_request (id : UserId) (r : Request) :
    d.log timeout (.request id r :: es) =
      (r, (d.handle timeout id r).1) :: (d.handle timeout id r).2.log timeout es :=
  rfl

end Desk

/-!
## One request
-/

section Effect

variable {l l' : Ledger} {id : UserId} {r : Request} {result : Except ServiceError Success}
  (h : Effect l id r result l')

include h

theorem Effect.opened (u : UserId) (hnone : l.wallets.get? u = none) :
    l'.wallets.get? u = none ∨ (DeskEvent.request id r).registration? = some u := by
  cases h with
  | refused =>
      exact Or.inl hnone
  | shown =>
      exact Or.inl hnone
  | listed =>
      exact Or.inl hnone
  | registered =>
      by_cases hu : u = id
      · right
        rw [hu]
        rfl
      · left
        change (l.openWallet id .zero).wallets.get? u = none
        rw [Ledger.get?_openWallet_of_ne l id .zero hu]
        exact hnone
  | carried _horder _hcarried hbooked =>
      left
      rcases hbooked with ⟨b, hget, _hbooked⟩
      rw [Ledger.get?_openWallet_of_ne]
      · exact hnone
      · intro hu
        rw [hu, hget] at hnone
        cases hnone

theorem Effect.kept (u : UserId) (hsome : (l.wallets.get? u).isSome) :
    (l'.wallets.get? u).isSome := by
  cases h with
  | refused =>
      exact hsome
  | shown =>
      exact hsome
  | listed =>
      exact hsome
  | registered =>
      exact Ledger.isSome_get?_openWallet l id .zero hsome
  | carried _horder _hcarried _hbooked =>
      exact Ledger.isSome_get?_openWallet l _ _ hsome

theorem Effect.reconciled (hl : l.Every Balances.WellFormed)
    (hid : forall u, (DeskEvent.request id r).registration? = some u -> l.wallets.get? u = none) :
    l'.Every Balances.WellFormed ∧
      forall u c, l'.held u c = l.held u c + counted (Order.net u c) r result := by
  cases h with
  | refused =>
      refine ⟨hl, ?_⟩
      intro u c
      rw [counted_error, add_zero]
  | shown =>
      refine ⟨hl, ?_⟩
      intro u c
      rw [counted_of_order?_eq_none _ rfl, add_zero]
  | listed =>
      refine ⟨hl, ?_⟩
      intro u c
      rw [counted_of_order?_eq_none _ rfl, add_zero]
  | registered =>
      refine ⟨Ledger.every_openWallet l id .zero hl Balances.wellFormed_zero, ?_⟩
      intro u c
      rw [counted_of_order?_eq_none _ rfl, add_zero]
      change (l.openWallet id .zero).held u c = l.held u c
      by_cases hu : u = id
      · rw [hu, Ledger.held_openWallet_self, Ledger.held, hid id rfl]
        cases c <;> exact Decimal.value_zero
      · exact Ledger.held_openWallet_of_ne l id .zero hu c
  | carried horder hcarried hbooked =>
      have hplaces := Request.scale_le_of_order? horder
      rcases Ledger.wellFormed_of_booked hl hcarried.isPositive (hcarried.fitsPlaces hplaces)
        hbooked with ⟨hl', hheld⟩
      refine ⟨hl', ?_⟩
      intro u c
      rw [hheld, hcarried.change_eq_net hplaces, counted_of_order? _ horder]

end Effect

/-!
## Histories
-/

theorem Ledger.FreshIds.tail {l l' : Ledger} {e : DeskEvent} {es : List DeskEvent}
    (h : l.FreshIds (e :: es))
    (hopened : forall u, l.wallets.get? u = none ->
      l'.wallets.get? u = none ∨ e.registration? = some u) : l'.FreshIds es := by
  rcases h with ⟨hnodup, hnone⟩
  cases he : e.registration? with
  | none =>
      rw [List.filterMap_cons_none he] at hnodup hnone
      refine ⟨hnodup, ?_⟩
      intro id hid
      rcases hopened id (hnone id hid) with hkept | hnew
      · exact hkept
      · rw [he] at hnew
        cases hnew
  | some new =>
      rw [List.filterMap_cons_some he] at hnodup hnone
      rw [List.nodup_cons] at hnodup
      refine ⟨hnodup.right, ?_⟩
      intro id hid
      rcases hopened id (hnone id (List.mem_cons_of_mem new hid)) with hkept | hnew
      · exact hkept
      · rw [he] at hnew
        cases hnew
        exact absurd hid hnodup.left

theorem Ledger.FreshIds.head {l : Ledger} {e : DeskEvent} {es : List DeskEvent}
    (h : l.FreshIds (e :: es)) {id : UserId} (he : e.registration? = some id) :
    l.wallets.get? id = none := by
  apply h.right id
  rw [List.filterMap_cons_some he]
  exact List.mem_cons_self

namespace Desk

theorem isSome_get?_run {timeout : Nat} {d : Desk} {es : List DeskEvent} {u : UserId}
    (h : (d.ledger.wallets.get? u).isSome) :
    ((d.run timeout es).2.ledger.wallets.get? u).isSome := by
  induction es generalizing d with
  | nil =>
      exact h
  | cons e es ih =>
      cases e with
      | pause milliseconds =>
          exact ih (d := d.advance milliseconds) h
      | provider p =>
          exact ih (d := d.setProvider p) h
      | request id r =>
          rw [run_request]
          exact ih ((d.handle_effect timeout id r).kept u h)

theorem held_run {timeout : Nat} {d : Desk} {es : List DeskEvent}
    (hd : d.ledger.Every Balances.WellFormed) (hids : d.ledger.FreshIds es) :
    (d.run timeout es).2.ledger.Every Balances.WellFormed ∧
      forall u c, (d.run timeout es).2.ledger.held u c =
        d.ledger.held u c + tally (Order.net u c) (d.log timeout es) := by
  induction es generalizing d with
  | nil =>
      refine ⟨hd, ?_⟩
      intro u c
      exact (add_zero _).symm
  | cons e es ih =>
      cases e with
      | pause milliseconds =>
          exact ih (d := d.advance milliseconds) hd (hids.tail (fun _u hu => Or.inl hu))
      | provider p =>
          exact ih (d := d.setProvider p) hd (hids.tail (fun _u hu => Or.inl hu))
      | request id r =>
          have heffect := d.handle_effect timeout id r
          rcases heffect.reconciled hd (fun u hu => hids.head hu) with ⟨hd', hstep⟩
          rcases ih hd' (hids.tail heffect.opened) with ⟨hafter, hrest⟩
          rw [run_request, log_request]
          refine ⟨hafter, ?_⟩
          intro u c
          rw [tally_cons, hrest, hstep, add_assoc]

/-- In the end every wallet is still there, with balances that are what balances are meant to
be. What a user holds is what the user held in the beginning, with the deposits and what was
received added, and the withdrawals and what was given taken off. -/
theorem held_reconciled {timeout : Nat} {d : Desk} {es : List DeskEvent}
    (hd : d.ledger.Every Balances.WellFormed) (hids : d.ledger.FreshIds es) :
    let after := (d.run timeout es).2.ledger
    let log := d.log timeout es
    after.Every Balances.WellFormed ∧
      (forall u, (d.ledger.wallets.get? u).isSome -> (after.wallets.get? u).isSome) ∧
      forall u c, after.held u c = d.ledger.held u c + tally (Order.deposited u c) log -
        tally (Order.withdrawn u c) log - tally (Order.given u c) log +
          tally (Order.received u c) log := by
  intro after log
  rcases held_run hd hids with ⟨hafter, hheld⟩
  refine ⟨hafter, fun u hu => isSome_get?_run hu, ?_⟩
  intro u c
  rw [hheld, tally_net]
  ring

theorem held_reconciled_thousand_roubles :
    let roubles : Balances := ⟨⟨false, 5000, 1, by decide, by decide⟩, .zero, .zero⟩
    let provider : Provider := { rate := fun _ => .ok "0.013", table := .ok [] }
    let d := Desk.start (Ledger.empty.openWallet default roubles) {} provider
    let owner := "00000000-0000-0000-0000-000000000000"
    let thousand : Binary64 := ⟨0x408F400000000000⟩
    let es : List DeskEvent :=
      [.request (.serial 1) (.register ⟨"ann", "ann@example.com", "hash"⟩),
        .request default (.deposit owner ⟨some thousand, some "rub"⟩),
        .pause 10,
        .request default (.exchange owner ⟨some "RUB", some "usd", some thousand⟩),
        .request default (.withdraw owner ⟨some thousand, some "RUB"⟩)]
    let after := (d.run 5000 es).2.ledger
    let log := d.log 5000 es
    d.ledger.Every Balances.WellFormed ∧ d.ledger.FreshIds es ∧
      after.Every Balances.WellFormed ∧
      (forall u, (d.ledger.wallets.get? u).isSome -> (after.wallets.get? u).isSome) ∧
      forall u c, after.held u c = d.ledger.held u c + tally (Order.deposited u c) log -
        tally (Order.withdrawn u c) log - tally (Order.given u c) log +
          tally (Order.received u c) log := by
  intro roubles provider d owner thousand es after log
  have hd : d.ledger.Every Balances.WellFormed :=
    Ledger.every_openWallet Ledger.empty default roubles Ledger.every_empty (by decide)
  have hids : d.ledger.FreshIds es := by decide
  exact ⟨hd, hids, held_reconciled hd hids⟩

end Desk

end CurrencyWallet
