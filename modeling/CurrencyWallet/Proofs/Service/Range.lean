import CurrencyWallet.Proofs.Service.Operations

/-!
# The range of balances

Whoever calls the operations of the desk directly may pass any amount: negative ones, or
ones with 28 fractional digits, whose sums and differences are rounded. No balance ever
leaves its range for that.
-/

namespace CurrencyWallet

inductive DeskCall where
  | pause (milliseconds : Nat)
  | provider (p : Provider)
  | register (id : UserId) (user : NewUser)
  | deposit (user : UserId) (code : String) (amount : Decimal)
  | withdraw (user : UserId) (code : String) (amount : Decimal)
  | exchange (deadline : Option Nat) (user : UserId) (source target : String) (amount : Decimal)

namespace Desk

def serve (d : Desk) : DeskCall -> Desk
  | .pause milliseconds => d.advance milliseconds
  | .provider p => d.setProvider p
  | .register id user => (d.register id user).2
  | .deposit user code amount => (d.deposit user code amount).2
  | .withdraw user code amount => (d.withdraw user code amount).2
  | .exchange deadline user source target amount =>
      (d.exchange deadline user source target amount).2

def serveAll (d : Desk) (calls : List DeskCall) : Desk :=
  calls.foldl serve d

theorem every_withinBounds_serve {d : Desk} (hd : d.ledger.Every Balances.WithinBounds)
    (call : DeskCall) : (d.serve call).ledger.Every Balances.WithinBounds := by
  cases call with
  | pause milliseconds =>
      exact hd
  | provider p =>
      exact hd
  | register id user =>
      rcases d.register_cases id user with hfails | ⟨users, hregister⟩
      · rw [serve, ledger_of_fails hfails]
        exact hd
      · rw [serve, hregister]
        exact Ledger.every_openWallet d.ledger id .zero hd
          (fun c => (Balances.wellFormed_zero c).left)
  | deposit user code amount =>
      exact (d.deposit_entered user code amount).every_withinBounds hd
  | withdraw user code amount =>
      exact (d.withdraw_entered user code amount).every_withinBounds hd
  | exchange deadline user source target amount =>
      exact (d.exchange_entered user deadline source target amount).every_withinBounds hd

/-- However often the operations are called, and with whatever amounts, every balance
stays in its range. -/
theorem every_withinBounds_serveAll {d : Desk} (hd : d.ledger.Every Balances.WithinBounds)
    (calls : List DeskCall) : (d.serveAll calls).ledger.Every Balances.WithinBounds := by
  induction calls generalizing d with
  | nil =>
      exact hd
  | cons call calls ih =>
      exact ih (every_withinBounds_serve hd call)

theorem every_withinBounds_nearly_full :
    let full : Balances := ⟨⟨false, 10 ^ 28 - 1, 10, by decide, by decide⟩, .zero, .zero⟩
    let d := Desk.start (Ledger.empty.openWallet default full) {} ListedRates.empty.provider
    d.ledger.Every Balances.WithinBounds ∧
      (d.serveAll [.deposit default "RUB" ⟨false, 1, 28, by decide, by decide⟩,
        .withdraw default "rub" ⟨false, 1, 28, by decide, by decide⟩,
        .withdraw default "USD" ⟨true, 5, 0, by decide, by decide⟩]).ledger.Every
          Balances.WithinBounds := by
  intro full d
  have hfull : full.WithinBounds := by decide
  have hd : d.ledger.Every Balances.WithinBounds :=
    Ledger.every_openWallet Ledger.empty default full Ledger.every_empty hfull
  exact ⟨hd, every_withinBounds_serveAll hd _⟩

end Desk

end CurrencyWallet
