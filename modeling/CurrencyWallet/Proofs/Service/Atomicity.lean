import CurrencyWallet.Proofs.Service.Effects

/-!
# All or nothing

A request that is not answered with success has changed neither a wallet nor a user. An
order that is answered with success has changed one wallet, and there only the balances of
the currencies that it names; the reply shows what the wallet holds now.
-/

namespace CurrencyWallet

/-!
## Success has a status of its own
-/

theorem ServiceError.status_ne (e : ServiceError) : e.status ≠ 200 := by
  have hkind : forall k, ServiceError.statusOfKind k ≠ 200 := by
    intro k
    cases k <;> decide
  unfold status
  split
  · decide
  · decide
  · decide
  · decide
  · decide
  · decide
  · decide
  · exact hkind _

/-!
## Orders
-/

section Carried

variable {o : Order} {m : Mutation} {b : Balances} {s : Success} (h : o.Carried m b s)

include h

theorem Order.Carried.legs_eq : m.legs.map Prod.fst = o.currencies := by
  cases h with
  | deposit _hpos =>
      rfl
  | withdraw _hpos =>
      rfl
  | exchange _hrate _hcompute =>
      rfl

theorem Order.Carried.newBalance : s.body.field? "new_balance" = some b.toJson := by
  cases h with
  | deposit _hpos =>
      simp [Success.body, Json.field?, Json.membersNamed]
  | withdraw _hpos =>
      simp [Success.body, Json.field?, Json.membersNamed]
  | exchange _hrate _hcompute =>
      simp [Success.body, Json.field?, Json.membersNamed]

end Carried

namespace Desk

/-- A request that fails leaves the books as they are. A request for money that succeeds
changes only the wallet and the currencies of its order, and tells the new contents. -/
theorem handle_atomic (d : Desk) (timeout : Nat) (id : UserId) (r : Request) :
    let reply := Reply.ofResult (d.handle timeout id r).1
    let after := (d.handle timeout id r).2.ledger
    (reply.status ≠ 200 -> after = d.ledger) ∧
      (r.IsMovement -> reply.status = 200 ->
        exists o b b', r.order? = some o ∧
          d.ledger.wallets.get? o.user = some b ∧
          after.wallets.get? o.user = some b' ∧
          (forall c, c ∉ o.currencies -> b'.get c = b.get c) ∧
          (forall user, user ≠ o.user -> after.wallets.get? user = d.ledger.wallets.get? user) ∧
          after.users = d.ledger.users ∧
          reply.body.field? "new_balance" = some b'.toJson) := by
  have heffect := d.handle_effect timeout id r
  rcases hhandle : d.handle timeout id r with ⟨result, d'⟩
  rw [hhandle] at heffect
  dsimp only at heffect ⊢
  generalize d'.ledger = after at heffect ⊢
  cases heffect with
  | refused =>
      rename_i e
      constructor
      · intro _hstatus
        rfl
      · intro _hmoves hstatus
        exact absurd hstatus e.status_ne
  | shown =>
      constructor
      · intro hstatus
        exact absurd rfl hstatus
      · intro hmoves
        exact hmoves.elim
  | listed =>
      constructor
      · intro hstatus
        exact absurd rfl hstatus
      · intro hmoves
        exact hmoves.elim
  | registered =>
      constructor
      · intro hstatus
        exact absurd rfl hstatus
      · intro hmoves
        exact hmoves.elim
  | carried horder hcarried hbooked =>
      rename_i o m b' s
      constructor
      · intro hstatus
        exact absurd rfl hstatus
      · intro _hmoves _hstatus
        rcases hbooked with ⟨b, hget, hbooked⟩
        refine ⟨o, b, b', horder, hget, Ledger.get?_openWallet_self _ _ _, ?_, ?_, rfl, ?_⟩
        · intro c hc
          rw [← hcarried.legs_eq] at hc
          exact Mutation.get_of_booked hbooked hc
        · intro user huser
          exact Ledger.get?_openWallet_of_ne _ _ _ huser
        · exact hcarried.newBalance

theorem handle_atomic_thousand_roubles :
    let d := Desk.start (Ledger.empty.openWallet default .zero) {} ListedRates.empty.provider
    let owner := "00000000-0000-0000-0000-000000000000"
    let body : WalletTransaction := ⟨some ⟨0x408F400000000000⟩, some "rub"⟩
    let reply := Reply.ofResult (d.handle 5000 default (.deposit owner body)).1
    let refusal := Reply.ofResult (d.handle 5000 default (.withdraw owner body)).1
    (refusal.status ≠ 200 ∧ (d.handle 5000 default (.withdraw owner body)).2.ledger = d.ledger) ∧
      reply.status = 200 ∧
      exists o b, (Request.deposit owner body).order? = some o ∧
        (d.handle 5000 default (.deposit owner body)).2.ledger.wallets.get? o.user = some b ∧
        reply.body.field? "new_balance" = some b.toJson := by
  intro d owner body reply refusal
  have hrefused : refusal.status ≠ 200 := by decide +kernel
  have hanswered : reply.status = 200 := by decide +kernel
  refine ⟨⟨hrefused, (handle_atomic d 5000 default (.withdraw owner body)).left hrefused⟩,
    hanswered, ?_⟩
  rcases (handle_atomic d 5000 default (.deposit owner body)).right trivial hanswered with
    ⟨o, _b, b', horder, _hbefore, hafter, _hkept, _hothers, _husers, hreply⟩
  exact ⟨o, b', horder, hafter, hreply⟩

end Desk

end CurrencyWallet
