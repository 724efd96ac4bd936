import CurrencyWallet.Proofs.Database.Apply
import CurrencyWallet.Proofs.Database.Course
import CurrencyWallet.Proofs.Database.Refusals

/-!
# What is reported of a mutation

A mutation is sent as one update, and whatever becomes of it, it is not sent again. The question
for the wallet follows only when there was no row for a debit. What is reported is what the answers
say: the row that came back, that the wallet is missing or does not cover the debit, that a balance
would be too large, or the fault of the database.
-/

namespace CurrencyWallet

theorem Mutation.debitLeg?_eq_none_iff {m : Mutation} :
    m.debitLeg? = none <-> exists c amount, m = .deposit c amount := by
  cases m with
  | deposit c amount =>
      exact ⟨fun _h => ⟨c, amount, rfl⟩, fun _h => rfl⟩
  | withdraw c amount =>
      simp [debitLeg?]
  | exchange source target debit credit =>
      simp [debitLeg?]

theorem Mutation.validate_eq_error {m : Mutation} {e : LedgerError} (h : m.validate = .error e) :
    exists c, e = .sameCurrency c := by
  cases m with
  | deposit c amount =>
      cases h
  | withdraw c amount =>
      cases h
  | exchange source target debit credit =>
      unfold validate at h
      dsimp only at h
      split at h
      next =>
        cases h
        exact ⟨source, rfl⟩
      next =>
        cases h

namespace Database

/-- The parameters are what the numbered places of the update ask for: the amount of its leg for
each change, the debit for the condition, and the user id behind all amounts. -/
structure Fills (user : UserId) (m : Mutation) (ps : List Parameter) : Prop where
  changes_eq : m.update.changes.map (fun c => (c.currency, Sql.parameter? ps c.parameter)) =
    m.legs.map (fun leg => (leg.1, some (.decimal leg.2.onWire)))
  floor_eq : m.update.floor.map (fun f => (f.1, Sql.parameter? ps f.2)) =
    m.debitLeg?.map (fun leg => (leg.1, some (.decimal leg.2.onWire)))
  owner_eq : Sql.parameter? ps m.update.owner = some (.id user)
  length_eq : ps.length = m.update.owner

theorem fills_updateParameters (user : UserId) (m : Mutation) :
    Fills user m (updateParameters user m) := by
  cases m with
  | deposit c amount =>
      exact ⟨rfl, rfl, rfl, rfl⟩
  | withdraw c amount =>
      exact ⟨rfl, rfl, rfl, rfl⟩
  | exchange source target debit credit =>
      exact ⟨rfl, rfl, rfl, rfl⟩

/-!
## How it goes
-/

inductive Settled (user : UserId) (m : Mutation) :
    List Attempt -> Except LedgerError Balances -> Prop where
  | updated {d : Delivery} {b : Balances} :
      d.outcome = .ok (some (.wallet b)) ->
      Settled user m [⟨updateCommand user m, d⟩] (.ok b.onWire)
  | unreadable {d : Delivery} {r : Row} :
      d.outcome = .ok (some r) -> (forall b, r ≠ .wallet b) ->
      Settled user m [⟨updateCommand user m, d⟩] (.error (.database (.protocol "unexpected row")))
  | tooLarge {d : Delivery} {e : ServerError} :
      d.outcome = .error (.server e) -> e.state = numericOutOfRange ->
      Settled user m [⟨updateCommand user m, d⟩] (.error (.amountOutOfRange (receiving m)))
  | failed {d : Delivery} {f : DatabaseFault} :
      d.outcome = .error f -> (forall e, f = .server e -> e.state ≠ numericOutOfRange) ->
      Settled user m [⟨updateCommand user m, d⟩] (.error (.database f))
  | missing {d : Delivery} :
      d.outcome = .ok none -> m.debitLeg? = none ->
      Settled user m [⟨updateCommand user m, d⟩] (.error (.walletNotFound user))
  | uncovered {d d' : Delivery} {c : Currency} {requested : Decimal} :
      d.outcome = .ok none -> m.debitLeg? = some (c, requested) ->
      d'.outcome = .ok (some (.flag true)) ->
      Settled user m [⟨updateCommand user m, d⟩, ⟨existsCommand user, d'⟩]
        (.error (.insufficientFunds c requested))
  | absent {d d' : Delivery} {leg : Currency × Decimal} :
      d.outcome = .ok none -> m.debitLeg? = some leg ->
      d'.outcome = .ok (some (.flag false)) ->
      Settled user m [⟨updateCommand user m, d⟩, ⟨existsCommand user, d'⟩]
        (.error (.walletNotFound user))
  | unanswered {d d' : Delivery} {leg : Currency × Decimal} {f : DatabaseFault} :
      d.outcome = .ok none -> m.debitLeg? = some leg ->
      (forall b, d'.outcome ≠ .ok (some (.flag b))) ->
      (forall f', d'.outcome = .error f' -> f' = f) ->
      Settled user m [⟨updateCommand user m, d⟩, ⟨existsCommand user, d'⟩] (.error (.database f))

variable {user : UserId} {m : Mutation} {log : List Attempt} {result : Except LedgerError Balances}

theorem settled_of_fault {d : Delivery} {f : DatabaseFault} (hd : d.outcome = .error f) :
    Settled user m [⟨updateCommand user m, d⟩] (.error (updateError m f)) := by
  cases f with
  | server e =>
      rw [updateError]
      split
      next hstate =>
        exact .tooLarge hd hstate
      next hstate =>
        refine .failed hd ?_
        intro e' he'
        cases he'
        exact hstate
  | _ =>
      refine .failed hd ?_
      intro e' he'
      cases he'

section Unmatched

variable {d : Delivery} {c : Currency} {requested : Decimal} (hd : d.outcome = .ok none)
  (hdebit : m.debitLeg? = some (c, requested))

include hd hdebit

theorem settled_of_row {d' : Delivery} {r : Option Row} {f : DatabaseFault}
    (hd' : d'.outcome = .ok r) (hr : forall b, r ≠ some (.flag b)) :
    Settled user m [⟨updateCommand user m, d⟩, ⟨existsCommand user, d'⟩] (.error (.database f)) := by
  refine .unanswered hd hdebit ?_ ?_
  · intro b hflag
    rw [hd'] at hflag
    exact hr b (Except.ok.inj hflag)
  · intro f' hf'
    rw [hd'] at hf'
    cases hf'

theorem settled_of_course_walletExists
    (h : (do
      if ← walletExists user then throw (.insufficientFunds c requested)
      else throw (.walletNotFound user) : BooksM Balances).run.Course log result) :
    Settled user m (⟨updateCommand user m, d⟩ :: log) result := by
  rw [walletExists, bind_assoc] at h
  cases sends_of_course h with
  | failed hd' =>
      refine .unanswered hd hdebit ?_ ?_
      · simp [hd']
      · simp [hd']
  | answered hd' hnext =>
      rename_i d' r log
      cases r with
      | none =>
          cases hnext
          exact settled_of_row hd hdebit hd' (fun b hflag => by cases hflag)
      | some r =>
          cases r with
          | flag b =>
              cases b with
              | false =>
                  cases hnext
                  exact .absent hd hdebit hd'
              | true =>
                  cases hnext
                  exact .uncovered hd hdebit hd'
          | _ =>
              cases hnext
              exact settled_of_row hd hdebit hd' (fun b hflag => by cases hflag)

end Unmatched

theorem settled_of_course (hvalid : m.validate = .ok ()) (hrange : m.checkRange = .ok ())
    (h : (apply user m).run.Course log result) : Settled user m log result := by
  unfold apply at h
  rw [hvalid, hrange] at h
  change (send (updateCommand user m) (updateError m) >>= _).run.Course log result at h
  cases sends_of_course h with
  | failed hd =>
      exact settled_of_fault hd
  | answered hd hnext =>
      rename_i d r log
      cases r with
      | none =>
          cases hdebit : m.debitLeg? with
          | none =>
              rw [hdebit] at hnext
              cases hnext
              exact .missing hd hdebit
          | some leg =>
              rw [hdebit] at hnext
              exact settled_of_course_walletExists hd hdebit hnext
      | some r =>
          cases r with
          | wallet b =>
              cases hnext
              exact .updated hd
          | _ =>
              cases hnext
              exact .unreadable hd (fun b h => by cases h)

/-!
## What is sent
-/

@[simp] theorem updateCommand_ne_existsCommand : updateCommand user m ≠ existsCommand user := by
  intro h
  cases h

@[simp] theorem existsCommand_ne_updateCommand : existsCommand user ≠ updateCommand user m :=
  updateCommand_ne_existsCommand.symm

section Settled

variable (h : Settled user m log result)

include h

theorem Settled.sent_prefix : sentIn log <+: [updateCommand user m, existsCommand user] := by
  cases h with
  | updated | unreadable | tooLarge | failed | missing =>
      exact sentIn_singleton_isPrefix
  | uncovered hd | absent hd | unanswered hd =>
      exact sentIn_cons_isPrefix hd sentIn_singleton_isPrefix

theorem Settled.tried_prefix :
    log.map Attempt.command <+: [updateCommand user m, existsCommand user] := by
  cases h with
  | updated | unreadable | tooLarge | failed | missing =>
      exact List.prefix_append [updateCommand user m] [existsCommand user]
  | uncovered | absent | unanswered =>
      exact List.prefix_rfl

theorem Settled.update_sent :
    updateCommand user m ∈ sentIn log ∨ exists f, log = [⟨updateCommand user m, .unsent f⟩] := by
  cases h with
  | updated | unreadable | tooLarge | failed | missing =>
      exact mem_sentIn_singleton_or
  | uncovered hd | absent hd | unanswered hd =>
      rw [sentIn_cons_of_outcome hd]
      exact Or.inl List.mem_cons_self

theorem Settled.exists_iff : existsCommand user ∈ log.map Attempt.command <->
    CameTo log (updateCommand user m) (.ok none) ∧ m.debitLeg? ≠ none := by
  cases h with
  | updated hd | unreadable hd | tooLarge hd | failed hd =>
      simp [hd]
  | missing hd hdebit =>
      simp [hdebit]
  | uncovered hd hdebit | absent hd hdebit | unanswered hd hdebit =>
      simp [hd, hdebit]

/-!
## What is reported
-/

theorem Settled.ok_iff (b : Balances) : result = .ok b <->
    exists b', CameTo log (updateCommand user m) (.ok (some (.wallet b'))) ∧ b = b'.onWire := by
  cases h with
  | updated hd =>
      simp [hd, eq_comm]
  | unreadable hd hrow =>
      simp [hd, hrow]
  | tooLarge hd | failed hd | missing hd | uncovered hd | absent hd | unanswered hd =>
      simp [hd]

theorem Settled.insufficientFunds_iff (c : Currency) (requested : Decimal) :
    result = .error (.insufficientFunds c requested) <->
      CameTo log (updateCommand user m) (.ok none) ∧
        CameTo log (existsCommand user) (.ok (some (.flag true))) ∧
        m.debitLeg? = some (c, requested) := by
  cases h with
  | updated hd | unreadable hd | tooLarge hd | failed hd | missing hd =>
      simp
  | uncovered hd hdebit hd' =>
      simp [hd, hd', hdebit]
  | absent hd hdebit hd' =>
      simp [hd']
  | unanswered hd hdebit hd' =>
      simp [hd']

theorem Settled.walletNotFound_iff (id : UserId) : result = .error (.walletNotFound id) <->
    id = user ∧ CameTo log (updateCommand user m) (.ok none) ∧
      ((exists c amount, m = .deposit c amount) ∨
        CameTo log (existsCommand user) (.ok (some (.flag false)))) := by
  rw [← Mutation.debitLeg?_eq_none_iff]
  cases h with
  | updated hd | unreadable hd | tooLarge hd | failed hd =>
      simp [hd]
  | missing hd hdebit =>
      simp [hd, hdebit, eq_comm]
  | uncovered hd hdebit hd' =>
      simp [hdebit, hd']
  | absent hd hdebit hd' =>
      simp [hd, hd', eq_comm]
  | unanswered hd hdebit hd' =>
      simp [hdebit, hd']

theorem Settled.amountOutOfRange_iff (c : Currency) : result = .error (.amountOutOfRange c) <->
    c = receiving m ∧ exists e, e.state = numericOutOfRange ∧
      CameTo log (updateCommand user m) (.error (.server e)) := by
  cases h with
  | tooLarge hd hstate =>
      simp [hd, hstate, eq_comm]
  | failed hd hstate =>
      constructor
      · intro heq
        cases heq
      · intro hcause
        rcases hcause with ⟨_hc, e, he, hcame⟩
        rw [cameTo_singleton, hd] at hcame
        exact absurd he (hstate e (Except.error.inj hcame.right))
  | updated hd | unreadable hd | missing hd | uncovered hd | absent hd | unanswered hd =>
      simp [hd]

theorem Settled.fault (c : Command) (f : DatabaseFault) (hfault : CameTo log c (.error f)) :
    result = .error (.database f) ∨
      c = updateCommand user m ∧ exists e, f = .server e ∧ e.state = numericOutOfRange := by
  cases h with
  | tooLarge hd hstate =>
      rw [cameTo_singleton, hd] at hfault
      exact Or.inr ⟨hfault.left, _, (Except.error.inj hfault.right).symm, hstate⟩
  | failed hd =>
      rw [cameTo_singleton, hd] at hfault
      rw [Except.error.inj hfault.right]
      exact Or.inl rfl
  | updated hd | unreadable hd | missing hd =>
      rw [cameTo_singleton, hd] at hfault
      cases hfault.right
  | uncovered hd hdebit hd' | absent hd hdebit hd' =>
      rw [cameTo_error_cons_of_outcome hd, cameTo_singleton, hd'] at hfault
      cases hfault.right
  | unanswered hd hdebit hflag hf =>
      rw [cameTo_error_cons_of_outcome hd, cameTo_singleton] at hfault
      rw [hf f hfault.right]
      exact Or.inl rfl

theorem Settled.cases (e : LedgerError) (he : result = .error e) :
    (exists f, e = .database f) ∨ (exists c, e = .amountOutOfRange c) ∨
      (exists c requested, e = .insufficientFunds c requested) ∨ e = .walletNotFound user := by
  cases h with
  | updated =>
      cases he
  | unreadable | failed | unanswered =>
      cases he
      exact Or.inl ⟨_, rfl⟩
  | tooLarge =>
      cases he
      exact Or.inr (Or.inl ⟨_, rfl⟩)
  | missing | absent =>
      cases he
      exact Or.inr (Or.inr (Or.inr rfl))
  | uncovered =>
      cases he
      exact Or.inr (Or.inr (Or.inl ⟨_, _, rfl⟩))

end Settled

/-- What is sent for a mutation and what is reported of it, whatever the server does. -/
structure Reported (user : UserId) (m : Mutation) (log : List Attempt)
    (result : Except LedgerError Balances) : Prop where
  /-- What breaks a rule or is out of range is not sent. -/
  refused (e : LedgerError) :
    m.validate = .error e ∨ m.validate = .ok () ∧ m.checkRange = .error e ->
      log = [] ∧ result = .error e
  /-- Nothing but the update and then the question for the wallet is sent, each at most once. -/
  sent_prefix : sentIn log <+: [updateCommand user m, existsCommand user]
  /-- What could not be sent is not tried again either. -/
  tried_prefix : log.map Attempt.command <+: [updateCommand user m, existsCommand user]
  /-- The update is sent unless there is no connection for it. -/
  update_sent : m.validate = .ok () -> m.checkRange = .ok () ->
    updateCommand user m ∈ sentIn log ∨ exists f, log = [⟨updateCommand user m, .unsent f⟩]
  exists_iff : existsCommand user ∈ log.map Attempt.command <->
    CameTo log (updateCommand user m) (.ok none) ∧ m.debitLeg? ≠ none
  ok_iff (b : Balances) : result = .ok b <->
    exists b', CameTo log (updateCommand user m) (.ok (some (.wallet b'))) ∧ b = b'.onWire
  insufficientFunds_iff (c : Currency) (requested : Decimal) :
    result = .error (.insufficientFunds c requested) <->
      CameTo log (updateCommand user m) (.ok none) ∧
        CameTo log (existsCommand user) (.ok (some (.flag true))) ∧
        m.debitLeg? = some (c, requested)
  walletNotFound_iff (id : UserId) : result = .error (.walletNotFound id) <->
    id = user ∧ CameTo log (updateCommand user m) (.ok none) ∧
      ((exists c amount, m = .deposit c amount) ∨
        CameTo log (existsCommand user) (.ok (some (.flag false))))
  amountOutOfRange_iff (c : Currency) : result = .error (.amountOutOfRange c) <->
    (m.validate = .ok () ∧ m.checkRange = .error (.amountOutOfRange c)) ∨
      c = receiving m ∧ exists e, e.state = numericOutOfRange ∧
        CameTo log (updateCommand user m) (.error (.server e))
  /-- Any other fault is reported as it is. -/
  fault (c : Command) (f : DatabaseFault) : CameTo log c (.error f) ->
    result = .error (.database f) ∨
      c = updateCommand user m ∧ exists e, f = .server e ∧ e.state = numericOutOfRange
  /-- There is no other error. -/
  cases (e : LedgerError) : result = .error e ->
    m.validate = .error e ∨ (exists f, e = .database f) ∨ (exists c, e = .amountOutOfRange c) ∨
      (exists c requested, e = .insufficientFunds c requested) ∨ e = .walletNotFound user

theorem reported_of_validate {e : LedgerError} (h : m.validate = .error e) :
    Reported user m [] (.error e) := by
  rcases Mutation.validate_eq_error h with ⟨c, rfl⟩
  constructor <;> simp [h, sentIn]

theorem reported_of_checkRange {e : LedgerError} (hvalid : m.validate = .ok ())
    (h : m.checkRange = .error e) : Reported user m [] (.error e) := by
  rcases checkRange_eq_error h with ⟨c, x, _hleg, _hout, rfl⟩
  constructor <;> simp [hvalid, h, sentIn]

theorem Settled.reported (hvalid : m.validate = .ok ()) (hrange : m.checkRange = .ok ())
    (h : Settled user m log result) : Reported user m log result where
  refused := by
    intro e hrefused
    rw [hvalid, hrange] at hrefused
    rcases hrefused with hrefused | ⟨_hvalid, hrefused⟩
    · cases hrefused
    · cases hrefused
  sent_prefix := h.sent_prefix
  tried_prefix := h.tried_prefix
  update_sent := fun _hvalid _hrange => h.update_sent
  exists_iff := h.exists_iff
  ok_iff := h.ok_iff
  insufficientFunds_iff := h.insufficientFunds_iff
  walletNotFound_iff := h.walletNotFound_iff
  amountOutOfRange_iff := by
    intro c
    rw [h.amountOutOfRange_iff, hrange]
    simp
  fault := h.fault
  cases := fun e he => Or.inr (h.cases e he)

theorem reported_of_course (h : (apply user m).run.Course log result) :
    Reported user m log result := by
  cases hvalid : m.validate with
  | error e =>
      unfold apply at h
      rw [hvalid] at h
      cases h
      exact reported_of_validate hvalid
  | ok u =>
      cases hrange : m.checkRange with
      | error e =>
          unfold apply at h
          rw [hvalid, hrange] at h
          cases h
          exact reported_of_checkRange hvalid hrange
      | ok u' =>
          exact (settled_of_course hvalid hrange h).reported hvalid hrange

/-- Whatever the server does, a mutation is sent as one update, at most once, with its amounts in
the numbered places and the user id behind them, and what is reported of it is what the answers
say. -/
theorem apply_reported {σ : Type} (deliver : σ -> Command -> Delivery × σ) (s : σ) (user : UserId)
    (m : Mutation) :
    let course := (apply user m).run.transcript deliver s
    Reported user m course.2 course.1 ∧ Fills user m (updateParameters user m) :=
  ⟨reported_of_course ((apply user m).run.course_transcript deliver s),
    fills_updateParameters user m⟩

end Database

end CurrencyWallet
