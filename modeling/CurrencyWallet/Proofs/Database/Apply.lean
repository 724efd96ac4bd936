import CurrencyWallet.Database.Books

/-!
# The course of a mutation in the database

A mutation that breaks a rule, or whose amounts are out of range, is refused before anything
is sent. Otherwise one update is sent, and its answer decides; only when there is no row and
something was to be taken, a question for the wallet follows.
-/

namespace CurrencyWallet

namespace Database

def updateCommand (user : UserId) (m : Mutation) : Command :=
  .execute (.updateWallet m.update) (updateParameters user m)

def existsCommand (user : UserId) : Command :=
  .execute .walletExists [.id user]

section Run

variable {σ : Type} {serve : σ -> Command -> Answer × σ} {s : σ} {user : UserId} {m : Mutation}

theorem run_apply_of_validate {e : LedgerError} (h : m.validate = .error e) :
    (apply user m).run.run serve s = (.error e, s) := by
  unfold apply
  rw [h]
  rfl

theorem run_apply_of_checkRange {e : LedgerError} (hvalid : m.validate = .ok ())
    (h : m.checkRange = .error e) : (apply user m).run.run serve s = (.error e, s) := by
  unfold apply
  rw [hvalid, h]
  rfl

section Sent

variable (hvalid : m.validate = .ok ()) (hrange : m.checkRange = .ok ())

include hvalid hrange

theorem run_apply_of_row {b : Balances}
    (h : (serve s (updateCommand user m)).1 = .row (.wallet b)) :
    (apply user m).run.run serve s = (.ok b.onWire, (serve s (updateCommand user m)).2) := by
  unfold apply send
  rw [hvalid, hrange]
  change Conversation.run serve (Conversation.ask (updateCommand user m) _) s = _
  rw [Conversation.run, h]
  rfl

theorem run_apply_of_fault {f : DatabaseFault}
    (h : (serve s (updateCommand user m)).1 = .fault f) :
    (apply user m).run.run serve s =
      (.error (updateError m f), (serve s (updateCommand user m)).2) := by
  unfold apply send
  rw [hvalid, hrange]
  change Conversation.run serve (Conversation.ask (updateCommand user m) _) s = _
  rw [Conversation.run, h]
  rfl

theorem run_apply_of_done (h : (serve s (updateCommand user m)).1 = .done)
    (hdebit : m.debitLeg? = none) :
    (apply user m).run.run serve s =
      (.error (.walletNotFound user), (serve s (updateCommand user m)).2) := by
  unfold apply send
  rw [hvalid, hrange, hdebit]
  change Conversation.run serve (Conversation.ask (updateCommand user m) _) s = _
  rw [Conversation.run, h]
  rfl

/-- Without a row for a debit, it depends on whether the wallet is there. -/
theorem run_apply_of_done_of_flag {currency : Currency} {requested : Decimal} {flag : Bool}
    (h : (serve s (updateCommand user m)).1 = .done)
    (hdebit : m.debitLeg? = some (currency, requested))
    (hflag : (serve (serve s (updateCommand user m)).2 (existsCommand user)).1 =
      .row (.flag flag)) :
    (apply user m).run.run serve s =
      (.error (if flag then .insufficientFunds currency requested else .walletNotFound user),
        (serve (serve s (updateCommand user m)).2 (existsCommand user)).2) := by
  unfold apply send
  rw [hvalid, hrange, hdebit]
  change Conversation.run serve (Conversation.ask (updateCommand user m) _) s = _
  rw [Conversation.run, h]
  change Conversation.run serve (Conversation.ask (existsCommand user) _) _ = _
  rw [Conversation.run, hflag]
  cases flag with
  | false =>
      rfl
  | true =>
      rfl

end Sent

end Run

end Database

end CurrencyWallet
