import CurrencyWallet.Database.Statement
import CurrencyWallet.Decimal.Parser
import CurrencyWallet.Proofs.Ledger.Mutation

/-!
# The meaning of statements

A database is sent text. What the text means is said here without regard to how it came
about: it is cut into words, the words are read as a statement, and an update is computed
from the numbers in the old row and the parameters, counted from one in the order in which
they are sent.
-/

namespace CurrencyWallet

namespace Sql

abbrev NumericRow : Type :=
  Currency -> ℚ

inductive Operand where
  | balance (c : Currency)
  | parameter (n : Nat)
deriving DecidableEq

inductive Expression where
  | sum (left right : Operand)
  | difference (left right : Operand)
deriving DecidableEq

/-- An update of one row. The left side of the condition must be at least the right side. -/
structure Update where
  assignments : List (Currency × Expression)
  owner : Nat
  condition : Option (Operand × Operand)
deriving DecidableEq

inductive Query where
  | update (u : Update)
  | walletExists (owner : Nat)
deriving DecidableEq

/-!
## Reading
-/

/-- Cuts text into words. Commas and parentheses are words of their own. -/
def wordsFrom (word : List Char) : List Char -> List String
  | [] => if word.isEmpty then [] else [String.ofList word]
  | c :: cs =>
      let finished := if word.isEmpty then [] else [String.ofList word]
      if c = ' ' then finished ++ wordsFrom [] cs
      else if c = ',' ∨ c = '(' ∨ c = ')' then finished ++ String.singleton c :: wordsFrom [] cs
      else wordsFrom (word ++ [c]) cs

def words (text : String) : List String :=
  wordsFrom [] text.toList

def column? : String -> Option Currency
  | "balance_rub" => some .rub
  | "balance_usd" => some .usd
  | "balance_eur" => some .eur
  | _ => none

def placeholder? (word : String) : Option Nat :=
  match word.toList with
  | '$' :: digits => natOfDigits? digits
  | _ => none

def operand? (word : String) : Option Operand :=
  match column? word with
  | some c => some (.balance c)
  | none => (placeholder? word).map .parameter

def expression? (left operator right : String) : Option Expression := do
  let left <- operand? left
  let right <- operand? right
  match operator with
  | "+" => some (.sum left right)
  | "-" => some (.difference left right)
  | _ => none

def assignments? : List String -> Option (List (Currency × Expression) × List String)
  | "updated_at" :: "=" :: "now" :: "(" :: ")" :: rest => some ([], rest)
  | target :: "=" :: left :: operator :: right :: "," :: rest => do
      let c <- column? target
      let e <- expression? left operator right
      let (more, rest) <- assignments? rest
      return ((c, e) :: more, rest)
  | _ => none

def returning : List String :=
  ["RETURNING", "balance_rub", ",", "balance_usd", ",", "balance_eur"]

def condition? : List String -> Option (Option (Operand × Operand))
  | "AND" :: left :: ">=" :: right :: rest => do
      let left <- operand? left
      let right <- operand? right
      if rest = returning then some (some (left, right)) else none
  | rest => if rest = returning then some none else none

def read? (text : String) : Option Query :=
  match words text with
  | "UPDATE" :: "wallets" :: "SET" :: rest =>
      match assignments? rest with
      | some (assignments, "WHERE" :: "user_id" :: "=" :: owner :: rest) => do
          let owner <- placeholder? owner
          let condition <- condition? rest
          return .update ⟨assignments, owner, condition⟩
      | _ => none
  | ["SELECT", "EXISTS", "(", "SELECT", "1", "FROM", "wallets", "WHERE", "user_id", "=", owner,
      ")"] => (placeholder? owner).map .walletExists
  | _ => none

/-!
## Computing
-/

section Computing

variable (parameters : List Parameter) (row : NumericRow)

def parameter? : Nat -> Option Parameter
  | 0 => none
  | n + 1 => parameters[n]?

def id? (n : Nat) : Option UserId :=
  match parameter? parameters n with
  | some (.id user) => some user
  | _ => none

def Operand.eval? : Operand -> Option ℚ
  | balance c => some (row c)
  | parameter n =>
      match parameter? parameters n with
      | some (.decimal d) => some d.value
      | _ => none

def Expression.eval? : Expression -> Option ℚ
  | sum left right => do
      return (<- left.eval? parameters row) + (<- right.eval? parameters row)
  | difference left right => do
      return (<- left.eval? parameters row) - (<- right.eval? parameters row)

def Update.admits? (u : Update) : Option Bool :=
  match u.condition with
  | none => some true
  | some (left, right) => do
      let left <- left.eval? parameters row
      let right <- right.eval? parameters row
      return right ≤ left

/-- What a balance becomes. A balance that is not assigned stays. -/
def Update.balance? (u : Update) (c : Currency) : Option ℚ :=
  match u.assignments.lookup c with
  | some e => e.eval? parameters row
  | none => some (row c)

/-- The update makes the second row of the first. No balance is assigned twice. -/
def Update.Produces (u : Update) (row' : NumericRow) : Prop :=
  (u.assignments.map Prod.fst).Nodup ∧ forall c, u.balance? parameters row c = some (row' c)

theorem Update.balance?_assigned {u : Update} {c : Currency} {e : Expression}
    (h : u.assignments.lookup c = some e) :
    u.balance? parameters row c = e.eval? parameters row := by
  rw [balance?, h]

theorem Update.balance?_kept {u : Update} {c : Currency} (h : u.assignments.lookup c = none) :
    u.balance? parameters row c = some (row c) := by
  rw [balance?, h]

end Computing

end Sql

end CurrencyWallet
