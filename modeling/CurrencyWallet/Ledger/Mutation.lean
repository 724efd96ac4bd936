import CurrencyWallet.Ledger.Error
import CurrencyWallet.Amount

/-!
# Mutations

The three ways in which the contents of a wallet change. `Mutation.apply` is the meaning
of a mutation: the new contents, or the reason why there are none. A debit is covered or
refused as a whole, and an exchange moves both balances or neither.
-/

namespace CurrencyWallet

/-- A change of one wallet. -/
inductive Mutation where
  /-- Adds an amount to a balance. -/
  | deposit (currency : Currency) (amount : Decimal)
  /-- Takes an amount from a balance. -/
  | withdraw (currency : Currency) (amount : Decimal)
  /-- Takes `debit` from one balance and adds `credit` to another. -/
  | exchange (source target : Currency) (debit credit : Decimal)
deriving DecidableEq

namespace Mutation

/-- What the mutation takes, and from which balance. -/
def debitLeg? : Mutation → Option (Currency × Decimal)
  | deposit _ _ => none
  | withdraw currency amount => some (currency, amount)
  | exchange source _ debit _ => some (source, debit)

/-- Whether the mutation is refused when a balance does not cover it. -/
def isConditional : Mutation → Bool
  | deposit _ _ => false
  | withdraw _ _ => true
  | exchange _ _ _ _ => true

/-- The balances that the mutation touches with the amounts, what is taken before what
is added. -/
def legs : Mutation → List (Currency × Decimal)
  | deposit currency amount => [(currency, amount)]
  | withdraw currency amount => [(currency, amount)]
  | exchange source target debit credit => [(source, debit), (target, credit)]

/-- The amounts in the order of the legs. -/
def amounts (m : Mutation) : List Decimal :=
  m.legs.map Prod.snd

/-- An exchange needs two currencies. -/
def validate : Mutation → Except LedgerError Unit
  | exchange source target _ _ => if source = target then .error (.sameCurrency source) else .ok ()
  | _ => .ok ()

/-- Every amount must be in the range of balances. The first leg that is not is named. -/
def checkRange (m : Mutation) : Except LedgerError Unit :=
  match m.legs.find? (fun leg => ¬ leg.2.InBalanceRange) with
  | some (currency, _) => .error (.amountOutOfRange currency)
  | none => .ok ()

/-- The balance named by the debit leg must cover it. -/
def checkFunds (m : Mutation) (b : Balances) : Except LedgerError Unit :=
  match m.debitLeg? with
  | none => .ok ()
  | some (currency, amount) =>
      if b.get currency < amount then .error (.insufficientFunds currency amount) else .ok ()

end Mutation

namespace Balances

/-- Adds an amount to a balance, which must stay in range. -/
def credit (b : Balances) (c : Currency) (amount : Decimal) : Except LedgerError Balances :=
  match (b.get c).add? amount with
  | some sum => if sum.InBalanceRange then .ok (b.set c sum) else .error (.amountOutOfRange c)
  | none => .error (.amountOutOfRange c)

def debit (b : Balances) (c : Currency) (amount : Decimal) : Except LedgerError Balances :=
  match (b.get c).sub? amount with
  | some difference => .ok (b.set c difference)
  | none => .error (.amountOutOfRange c)

end Balances

namespace Mutation

/-- Changes the balances, without asking whether they cover the debit. -/
def book (m : Mutation) (b : Balances) : Except LedgerError Balances :=
  match m with
  | deposit currency amount => b.credit currency amount
  | withdraw currency amount => b.debit currency amount
  | exchange source target debit credit => do (← b.debit source debit).credit target credit

/-- The contents of a wallet after the mutation, or why it is refused. -/
def apply (m : Mutation) (b : Balances) : Except LedgerError Balances := do
  m.validate
  m.checkFunds b
  m.book b

end Mutation

end CurrencyWallet
