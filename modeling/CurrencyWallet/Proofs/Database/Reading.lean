import CurrencyWallet.Proofs.Database.Sql
import CurrencyWallet.Proofs.Decimal.Text

/-!
# Texts are understood as they are meant

An update is put together as data and sent as text. Whoever reads the text finds the same
columns, the same signs, and every parameter in its place.
-/

namespace CurrencyWallet

namespace Sql

/-!
## Words
-/

def IsSeparator (c : Char) : Prop :=
  c = ' ' ∨ c = ',' ∨ c = '(' ∨ c = ')'

instance (c : Char) : Decidable (IsSeparator c) :=
  inferInstanceAs (Decidable (_ ∨ _))

theorem not_isSeparator_of_isDigit {c : Char} (h : c.isDigit) : ¬ IsSeparator c := by
  intro hc
  rcases hc with rfl | rfl | rfl | rfl
  · exact absurd h (by decide)
  · exact absurd h (by decide)
  · exact absurd h (by decide)
  · exact absurd h (by decide)

theorem wordsFrom_append {c : Char} (hc : IsSeparator c) (word cs rest : List Char) :
    wordsFrom word (cs ++ c :: rest) = wordsFrom word cs ++ wordsFrom [] (c :: rest) := by
  induction cs generalizing word with
  | nil =>
      rcases hc with rfl | hc
      · simp [wordsFrom]
      · have hblank : c ≠ ' ' := by
          rintro rfl
          simp at hc
        simp [wordsFrom, hblank, hc]
  | cons c' cs ih =>
      rw [List.cons_append, wordsFrom, wordsFrom]
      by_cases hblank : c' = ' '
      · simp only [if_pos hblank, ih, List.append_assoc]
      · by_cases hmark : c' = ',' ∨ c' = '(' ∨ c' = ')'
        · simp only [if_neg hblank, if_pos hmark, ih, List.append_assoc, List.cons_append]
        · simp only [if_neg hblank, if_neg hmark, ih]

theorem wordsFrom_of_plain {cs : List Char} (h : forall c, c ∈ cs -> ¬ IsSeparator c)
    (word : List Char) : wordsFrom word cs = wordsFrom (word ++ cs) [] := by
  induction cs generalizing word with
  | nil =>
      rw [List.append_nil]
  | cons c cs ih =>
      have hc := h c List.mem_cons_self
      have hblank : c ≠ ' ' := fun heq => hc (Or.inl heq)
      have hmark : ¬ (c = ',' ∨ c = '(' ∨ c = ')') := fun heq => hc (Or.inr heq)
      have hstep : wordsFrom word (c :: cs) = wordsFrom (word ++ [c]) cs := by
        rw [wordsFrom]
        simp only [if_neg hblank, if_neg hmark]
      rw [hstep, ih (fun c' hc' => h c' (List.mem_cons_of_mem c hc')), List.append_assoc]
      rfl

/-- Words do not reach over a separator at the beginning of the second text. -/
theorem words_append_of_head {s t : String} {c : Char} {cs : List Char} (hc : IsSeparator c)
    (ht : t.toList = c :: cs) : words (s ++ t) = words s ++ words t := by
  rw [words, words, words, String.toList_append, ht]
  exact wordsFrom_append hc [] s.toList cs

theorem words_append_of_last {s t : String} {c : Char} {cs : List Char} (hc : IsSeparator c)
    (hs : s.toList = cs ++ [c]) : words (s ++ t) = words s ++ words t := by
  have hseparator : forall rest, wordsFrom [] (c :: rest) = wordsFrom [] [c] ++ wordsFrom [] rest := by
    intro rest
    rcases hc with rfl | hc
    · rfl
    · have hblank : c ≠ ' ' := by
        rintro rfl
        simp at hc
      simp [wordsFrom, hblank, hc]
  rw [words, words, words, String.toList_append, hs, List.append_assoc, List.singleton_append,
    wordsFrom_append hc, wordsFrom_append hc, hseparator, List.append_assoc]

theorem words_blank (s t : String) : words (s ++ " " ++ t) = words s ++ words t := by
  have hone : " ".toList = [' '] := rfl
  have hfirst : words (s ++ " ") = words s := by
    rw [words_append_of_head (Or.inl rfl) hone]
    exact List.append_nil _
  have hlast : (s ++ " ").toList = s.toList ++ [' '] := String.toList_append
  rw [words_append_of_last (Or.inl rfl) hlast, hfirst]

theorem words_comma (s t : String) : words (s ++ "," ++ t) = words s ++ "," :: words t := by
  have hcomma : IsSeparator ',' := Or.inr (Or.inl rfl)
  have hone : ",".toList = [','] := rfl
  have hfirst : words (s ++ ",") = words s ++ [","] := by
    rw [words_append_of_head hcomma hone]
    rfl
  have hlast : (s ++ ",").toList = s.toList ++ [','] := String.toList_append
  rw [words_append_of_last hcomma hlast, hfirst, List.append_assoc]
  rfl

theorem words_of_plain {s : String} (hne : s.toList ≠ [])
    (h : forall c, c ∈ s.toList -> ¬ IsSeparator c) : words s = [s] := by
  rw [words, wordsFrom_of_plain h, List.nil_append, wordsFrom, if_neg (by simpa using hne),
    String.ofList_toList]

/-!
## Placeholders
-/

def placeholder (n : Nat) : String :=
  "$" ++ toString n

theorem toList_placeholder (n : Nat) : (placeholder n).toList = '$' :: Nat.toDigits 10 n := by
  rw [placeholder, String.toList_append, Nat.toString_eq_repr, Nat.toList_repr]
  rfl

theorem placeholder?_placeholder (n : Nat) : placeholder? (placeholder n) = some n := by
  rw [placeholder?, toList_placeholder]
  exact natOfDigits?_toDigits n

theorem column?_placeholder (n : Nat) : column? (placeholder n) = none := by
  have hhead : (placeholder n).toList.head? = some '$' := by
    rw [toList_placeholder]
    rfl
  unfold column?
  split
  next heq =>
    rw [heq] at hhead
    simp at hhead
  next heq =>
    rw [heq] at hhead
    simp at hhead
  next heq =>
    rw [heq] at hhead
    simp at hhead
  next =>
    rfl

theorem operand?_placeholder (n : Nat) : operand? (placeholder n) = some (.parameter n) := by
  rw [operand?, column?_placeholder, placeholder?_placeholder]
  rfl

theorem column?_column (c : Currency) : column? c.column = some c := by
  cases c <;> rfl

theorem operand?_column (c : Currency) : operand? c.column = some (.balance c) := by
  rw [operand?, column?_column]

theorem words_column (c : Currency) : words c.column = [c.column] := by
  cases c <;> decide +kernel

theorem words_placeholder (n : Nat) : words (placeholder n) = [placeholder n] := by
  apply words_of_plain
  · rw [toList_placeholder]
    exact List.cons_ne_nil _ _
  · intro c hc
    rw [toList_placeholder] at hc
    rcases List.mem_cons.mp hc with rfl | hdigit
    · decide
    · exact not_isSeparator_of_isDigit (isDigit_of_mem_toDigits hdigit)

end Sql

/-!
## Changes
-/

namespace BalanceChange

def operator (c : BalanceChange) : String :=
  match c.sign with
  | .plus => "+"
  | .minus => "-"

def words (c : BalanceChange) : List String :=
  [c.currency.column, "=", c.currency.column, c.operator, Sql.placeholder c.parameter]

def assignment (c : BalanceChange) : Currency × Sql.Expression :=
  match c.sign with
  | .plus => (c.currency, .sum (.balance c.currency) (.parameter c.parameter))
  | .minus => (c.currency, .difference (.balance c.currency) (.parameter c.parameter))

theorem text_eq (c : BalanceChange) :
    c.text = c.currency.column ++ " " ++ ("=" ++ " " ++ (c.currency.column ++ " " ++
      (c.operator ++ " " ++ Sql.placeholder c.parameter))) := by
  change c.currency.column ++ " = " ++ c.currency.column ++ " " ++ c.operator ++ " $" ++
    toString c.parameter = _
  rw [← String.toList_inj]
  simp [Sql.placeholder]

theorem words_operator (c : BalanceChange) : Sql.words c.operator = [c.operator] := by
  unfold operator
  cases c.sign with
  | plus =>
      decide +kernel
  | minus =>
      decide +kernel

theorem words_text (c : BalanceChange) : Sql.words c.text = c.words := by
  have hequals : Sql.words "=" = ["="] := by decide +kernel
  rw [text_eq, Sql.words_blank, Sql.words_blank, Sql.words_blank, Sql.words_blank,
    Sql.words_column, hequals, words_operator, Sql.words_placeholder]
  rfl

theorem expression?_words (c : BalanceChange) :
    Sql.expression? c.currency.column c.operator (Sql.placeholder c.parameter) =
      some c.assignment.2 := by
  unfold Sql.expression? operator assignment
  rw [Sql.operand?_column, Sql.operand?_placeholder]
  cases c.sign with
  | plus =>
      rfl
  | minus =>
      rfl

theorem assignments?_words (c : BalanceChange) (rest : List String) :
    Sql.assignments? (c.words ++ "," :: rest) =
      (Sql.assignments? rest).map (fun r => (c.assignment :: r.1, r.2)) := by
  have htarget : (c.currency, c.assignment.2) = c.assignment := by
    unfold assignment
    cases c.sign with
    | plus =>
        rfl
    | minus =>
        rfl
  have hstamp : c.currency.column ≠ "updated_at" := by
    cases c.currency <;> decide
  change Sql.assignments? (c.currency.column :: "=" :: c.currency.column :: c.operator ::
    Sql.placeholder c.parameter :: "," :: rest) = _
  rw [Sql.assignments?]
  · rw [Sql.column?_column, expression?_words]
    cases Sql.assignments? rest with
    | none =>
        rfl
    | some r =>
        rw [← htarget]
        rfl
  · intro heq
    exact absurd heq hstamp

end BalanceChange

section Changes

variable {changes : List BalanceChange}

theorem words_intercalate (h : changes ≠ []) :
    Sql.words (", ".intercalate (changes.map BalanceChange.text)) ++ [","] =
      changes.flatMap (fun c => c.words ++ [","]) := by
  induction changes with
  | nil =>
      exact absurd rfl h
  | cons c changes ih =>
      cases changes with
      | nil =>
          rw [List.map_singleton, String.intercalate_singleton, BalanceChange.words_text]
          rfl
      | cons c' changes =>
          have hlist : ", ".intercalate ((c :: c' :: changes).map BalanceChange.text) =
              c.text ++ "," ++
                ("" ++ " " ++ ", ".intercalate ((c' :: changes).map BalanceChange.text)) := by
            rw [List.map_cons, List.map_cons, String.intercalate_cons_cons, ← String.toList_inj]
            simp
          have hnone : Sql.words "" = [] := rfl
          rw [hlist, Sql.words_comma, Sql.words_blank, hnone, List.nil_append, List.append_assoc,
            List.cons_append, ih (List.cons_ne_nil _ _), BalanceChange.words_text,
            List.flatMap_cons]
          simp

theorem assignments?_changes (changes : List BalanceChange) (rest : List String) :
    Sql.assignments? (changes.flatMap (fun c => c.words ++ [","]) ++
        "updated_at" :: "=" :: "now" :: "(" :: ")" :: rest) =
      some (changes.map BalanceChange.assignment, rest) := by
  induction changes with
  | nil =>
      rfl
  | cons c changes ih =>
      rw [List.flatMap_cons, List.append_assoc, List.append_assoc, List.singleton_append,
        BalanceChange.assignments?_words, ih]
      rfl

end Changes

/-!
## Updates
-/

namespace WalletUpdate

def meaning (u : WalletUpdate) : Sql.Update where
  assignments := u.changes.map BalanceChange.assignment
  owner := u.owner
  condition := u.floor.map fun f => (.balance f.1, .parameter f.2)

def ending (u : WalletUpdate) : String :=
  match u.floor with
  | some (c, n) =>
      "AND" ++ " " ++ (c.column ++ " " ++ (">=" ++ " " ++ (Sql.placeholder n ++ " " ++
        "RETURNING balance_rub, balance_usd, balance_eur")))
  | none => "RETURNING balance_rub, balance_usd, balance_eur"

theorem text_eq (u : WalletUpdate) :
    u.text = "UPDATE wallets SET" ++ " " ++
      (", ".intercalate (u.changes.map BalanceChange.text) ++ "," ++
        (" updated_at = now() WHERE user_id =" ++ " " ++
          (Sql.placeholder u.owner ++ " " ++ u.ending))) := by
  rcases u with ⟨changes, owner, floor⟩
  rw [← String.toList_inj]
  cases floor with
  | none =>
      change ("UPDATE wallets SET " ++ ", ".intercalate (changes.map BalanceChange.text) ++
        (", updated_at = now() WHERE user_id = $" ++ toString owner) ++ "" ++
        " RETURNING balance_rub, balance_usd, balance_eur").toList = _
      simp [Sql.placeholder, ending]
  | some f =>
      rcases f with ⟨c, n⟩
      change ("UPDATE wallets SET " ++ ", ".intercalate (changes.map BalanceChange.text) ++
        (", updated_at = now() WHERE user_id = $" ++ toString owner) ++
        (" AND " ++ c.column ++ " >= $" ++ toString n) ++
        " RETURNING balance_rub, balance_usd, balance_eur").toList = _
      simp [Sql.placeholder, ending]

theorem words_returning :
    Sql.words "RETURNING balance_rub, balance_usd, balance_eur" = Sql.returning := by
  decide +kernel

theorem condition?_ending (u : WalletUpdate) :
    Sql.condition? (Sql.words u.ending) = some u.meaning.condition := by
  rcases u with ⟨changes, owner, floor⟩
  cases floor with
  | none =>
      change Sql.condition? (Sql.words "RETURNING balance_rub, balance_usd, balance_eur") = some none
      rw [words_returning]
      decide +kernel
  | some f =>
      rcases f with ⟨c, n⟩
      have hand : Sql.words "AND" = ["AND"] := by decide +kernel
      have hleast : Sql.words ">=" = [">="] := by decide +kernel
      rw [ending]
      dsimp only
      rw [Sql.words_blank, Sql.words_blank, Sql.words_blank, Sql.words_blank, hand,
        Sql.words_column, hleast, Sql.words_placeholder, words_returning]
      change Sql.condition? ("AND" :: c.column :: ">=" :: Sql.placeholder n :: Sql.returning) = _
      rw [Sql.condition?, Sql.operand?_column, Sql.operand?_placeholder]
      rfl

/-- The text of an update that changes something is understood as it is meant. -/
theorem read?_text {u : WalletUpdate} (h : u.changes ≠ []) :
    Sql.read? u.text = some (.update u.meaning) := by
  have hfirst : Sql.words "UPDATE wallets SET" = ["UPDATE", "wallets", "SET"] := by
    decide +kernel
  have hlast : Sql.words " updated_at = now() WHERE user_id =" =
      ["updated_at", "=", "now", "(", ")", "WHERE", "user_id", "="] := by
    decide +kernel
  have hwords : Sql.words u.text = "UPDATE" :: "wallets" :: "SET" ::
      (u.changes.flatMap (fun c => c.words ++ [","]) ++
        "updated_at" :: "=" :: "now" :: "(" :: ")" ::
          "WHERE" :: "user_id" :: "=" :: Sql.placeholder u.owner :: Sql.words u.ending) := by
    rw [text_eq, Sql.words_blank, Sql.words_comma, Sql.words_blank, Sql.words_blank, hfirst, hlast,
      Sql.words_placeholder, ← words_intercalate h]
    simp
  rw [Sql.read?, hwords]
  simp only [assignments?_changes]
  rw [Sql.placeholder?_placeholder, condition?_ending]
  rfl

end WalletUpdate

theorem Sql.read?_walletExists :
    Sql.read? Statement.walletExists.text = some (.walletExists 1) := by
  decide +kernel

end CurrencyWallet
