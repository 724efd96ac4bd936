import CurrencyWallet.Database.Books
import CurrencyWallet.Proofs.Database.Sql

/-!
# Faithful servers

What is expected of the server that keeps the wallets. An update is computed from the old
row; when the result is too large for a column nothing is changed. A balance has a column
of eighteen whole and ten fractional digits and is not negative. What the server does with
other results, or with other statements, is left open.

A table that is kept in memory and answers by the meaning of the statements is a faithful
server, so there is one.
-/

namespace CurrencyWallet

namespace Balances

def values (b : Balances) : Sql.NumericRow :=
  fun c => (b.get c).value

end Balances

namespace Sql

def FitsColumn (v : ℚ) : Prop :=
  v < 10 ^ 18 ∧ exists n : Nat, v * 10 ^ 10 = n

/-- The server understands what it is sent and keeps the wallets accordingly. -/
structure Faithful {σ : Type} (serve : σ -> Command -> Answer × σ)
    (rows : σ -> UserId -> Option NumericRow) : Prop where
  /-- Without a row that meets the condition there is no row, and nothing is changed. -/
  unmatched {s : σ} {st : Statement} {ps : List Parameter} {u : Update} {user : UserId} :
    read? st.text = some (.update u) -> id? ps u.owner = some user ->
    (forall row, rows s user = some row -> u.admits? ps row = some false) ->
    (serve s (.execute st ps)).1 = .done ∧ rows (serve s (.execute st ps)).2 = rows s
  /-- A balance that grows too large is an error, and nothing is changed. -/
  overflow {s : σ} {st : Statement} {ps : List Parameter} {u : Update} {user : UserId}
    {row row' : NumericRow} :
    read? st.text = some (.update u) -> id? ps u.owner = some user ->
    rows s user = some row -> u.admits? ps row = some true -> u.Produces ps row row' ->
    (exists c, 10 ^ 18 ≤ row' c) ->
    (exists e, (serve s (.execute st ps)).1 = .fault (.server e) ∧ e.state = "22003") ∧
      rows (serve s (.execute st ps)).2 = rows s
  /-- Otherwise the new row is stored and returned. -/
  updated {s : σ} {st : Statement} {ps : List Parameter} {u : Update} {user : UserId}
    {row row' : NumericRow} :
    read? st.text = some (.update u) -> id? ps u.owner = some user ->
    rows s user = some row -> u.admits? ps row = some true -> u.Produces ps row row' ->
    (forall c, FitsColumn (row' c)) ->
    (exists b, (serve s (.execute st ps)).1 = .row (.wallet b) ∧ b.values = row') ∧
      rows (serve s (.execute st ps)).2 = Function.update (rows s) user (some row')
  /-- Whether there is a row is answered truthfully. -/
  existence {s : σ} {st : Statement} {ps : List Parameter} {n : Nat} {user : UserId} :
    read? st.text = some (.walletExists n) -> id? ps n = some user ->
    (serve s (.execute st ps)).1 = .row (.flag (rows s user).isSome) ∧
      rows (serve s (.execute st ps)).2 = rows s

/-!
## Columns
-/

theorem fitsColumn_of_isBalance {d : Decimal} (h : d.IsBalance) : FitsColumn d.value := by
  have hvalue : (d.coefficientAt 10 : ℚ) = d.value * 10 ^ 10 :=
    Decimal.coefficientAt_eq_value_mul h.right
  have hnonneg : 0 ≤ d.coefficientAt 10 := by
    rw [← Int.cast_nonneg_iff (R := ℚ), hvalue]
    exact mul_nonneg h.left.left (by positivity)
  refine ⟨h.left.right, (d.coefficientAt 10).toNat, ?_⟩
  rw [← hvalue]
  exact_mod_cast (Int.toNat_of_nonneg hnonneg).symm

def decimalOf (v : ℚ) : Decimal :=
  (Decimal.make? false (v * 10 ^ 10).num.toNat 10).getD .zero

theorem value_decimalOf {v : ℚ} (h : FitsColumn v) : (decimalOf v).value = v := by
  rcases h with ⟨hlt, n, hn⟩
  have hnat : (v * 10 ^ 10).num.toNat = n := by
    rw [hn]
    rfl
  have hroom : n < 2 ^ 96 ∧ 10 ≤ 28 := by
    constructor
    · have hbound : (n : ℚ) < 2 ^ 96 := by
        rw [← hn]
        calc
          v * 10 ^ 10 < 10 ^ 18 * 10 ^ 10 := mul_lt_mul_of_pos_right hlt (by positivity)
          _ < 2 ^ 96 := by norm_num
      exact_mod_cast hbound
    · decide
  rw [decimalOf, hnat, Decimal.make?, dif_pos hroom, Option.getD_some, Decimal.value,
    Decimal.coefficient, if_neg (by simp)]
  push_cast
  rw [← hn]
  field_simp

/-!
## A table in memory
-/

abbrev Table : Type :=
  UserId -> Option NumericRow

namespace Table

def result (u : Update) (ps : List Parameter) (row : NumericRow) : NumericRow :=
  fun c => (u.balance? ps row c).getD 0

def balancesOf (row : NumericRow) : Balances :=
  ⟨decimalOf (row .rub), decimalOf (row .usd), decimalOf (row .eur)⟩

def tooLarge : ServerError :=
  ⟨Database.numericOutOfRange, none, "numeric field overflow"⟩

def change (t : Table) (user : UserId) (row' : NumericRow) : Answer × Table :=
  if exists c, c ∈ Currency.all ∧ 10 ^ 18 ≤ row' c then (.fault (.server tooLarge), t)
  else (.row (.wallet (balancesOf row')), Function.update t user (some row'))

def answer (t : Table) (q : Query) (ps : List Parameter) : Answer × Table :=
  match q with
  | .update u =>
      match id? ps u.owner with
      | none => (.done, t)
      | some user =>
          match t user with
          | none => (.done, t)
          | some row =>
              if u.admits? ps row = some true then t.change user (result u ps row)
              else (.done, t)
  | .walletExists n =>
      match id? ps n with
      | none => (.done, t)
      | some user => (.row (.flag (t user).isSome), t)

def serve (t : Table) : Command -> Answer × Table
  | .execute st ps =>
      match read? st.text with
      | some q => t.answer q ps
      | none => (.done, t)
  | _ => (.done, t)

theorem result_of_produces {u : Update} {ps : List Parameter} {row row' : NumericRow}
    (h : u.Produces ps row row') : result u ps row = row' := by
  funext c
  rw [result, h.right c, Option.getD_some]

theorem values_balancesOf {row : NumericRow} (h : forall c, FitsColumn (row c)) :
    (balancesOf row).values = row := by
  funext c
  cases c with
  | rub =>
      exact value_decimalOf (h .rub)
  | usd =>
      exact value_decimalOf (h .usd)
  | eur =>
      exact value_decimalOf (h .eur)

theorem faithful_serve : Faithful serve (fun t => t) where
  unmatched := by
    intro t st ps u user hread hid hrow
    rw [serve, hread]
    dsimp only [answer]
    rw [hid]
    cases hget : t user with
    | none =>
        dsimp only
        rw [hget]
        exact ⟨rfl, rfl⟩
    | some row =>
        dsimp only
        rw [hget]
        dsimp only
        rw [hrow row hget, if_neg (by decide)]
        exact ⟨rfl, rfl⟩
  overflow := by
    intro t st ps u user row row' hread hid hget hadmits hproduces hlarge
    rw [serve, hread]
    dsimp only [answer]
    rw [hid]
    dsimp only
    rw [hget]
    dsimp only
    rcases hlarge with ⟨c, hc⟩
    have hmem : c ∈ Currency.all := by cases c <;> decide
    rw [if_pos hadmits, result_of_produces hproduces, change, if_pos ⟨c, hmem, hc⟩]
    exact ⟨⟨tooLarge, rfl, rfl⟩, rfl⟩
  updated := by
    intro t st ps u user row row' hread hid hget hadmits hproduces hfits
    rw [serve, hread]
    dsimp only [answer]
    rw [hid]
    dsimp only
    rw [hget]
    dsimp only
    have hsmall : ¬ exists c, c ∈ Currency.all ∧ 10 ^ 18 ≤ row' c := by
      intro hlarge
      rcases hlarge with ⟨c, _hmem, hc⟩
      exact absurd (hfits c).left (not_lt.mpr hc)
    rw [if_pos hadmits, result_of_produces hproduces, change, if_neg hsmall]
    exact ⟨⟨balancesOf row', rfl, values_balancesOf hfits⟩, rfl⟩
  existence := by
    intro t st ps n user hread hid
    rw [serve, hread]
    dsimp only [answer]
    rw [hid]
    exact ⟨rfl, rfl⟩

end Table

end Sql

end CurrencyWallet
