import CurrencyWallet.Proofs.Database.Apply
import CurrencyWallet.Proofs.Database.Reading
import CurrencyWallet.Proofs.Database.Server
import CurrencyWallet.Proofs.Ledger.Refusal

/-!
# Two ways to keep the books

Books in memory and books in a database agree. A mutation that one of them accepts is
accepted by the other, with the same numbers in the new wallet, and what one of them refuses
leaves both as they were. The range check that is made before anything is sent refuses
nothing that memory would accept.
-/

namespace CurrencyWallet

@[simp] theorem Decimal.value_onWire (d : Decimal) : d.onWire.value = d.value := by
  unfold onWire
  split
  next hzero =>
    rw [value_zero, value_eq_zero_iff.mpr hzero]
  next =>
    rfl

@[simp] theorem Balances.values_onWire (b : Balances) : b.onWire.values = b.values := by
  funext c
  cases c with
  | rub =>
      exact Decimal.value_onWire b.rub
  | usd =>
      exact Decimal.value_onWire b.usd
  | eur =>
      exact Decimal.value_onWire b.eur

/-!
## What the update of a mutation says
-/

theorem Mutation.read?_update (m : Mutation) :
    Sql.read? (Statement.updateWallet m.update).text = some (.update m.update.meaning) := by
  apply WalletUpdate.read?_text
  cases m with
  | deposit c amount =>
      exact List.cons_ne_nil _ _
  | withdraw c amount =>
      exact List.cons_ne_nil _ _
  | exchange source target debit credit =>
      exact List.cons_ne_nil _ _

theorem lookup_cons_of_ne {α : Type} {c c' : Currency} (h : c ≠ c') (x : α)
    (l : List (Currency × α)) : ((c', x) :: l).lookup c = l.lookup c := by
  have hne : (c == c') = false := by simpa using h
  rw [List.lookup_cons, hne]

section Meaning

variable (user : UserId) (m : Mutation) (row : Sql.NumericRow)

theorem id?_updateParameters :
    Sql.id? (Database.updateParameters user m) m.update.meaning.owner = some user := by
  cases m with
  | deposit c amount =>
      rfl
  | withdraw c amount =>
      rfl
  | exchange source target debit credit =>
      rfl

theorem admits?_update :
    exists covered, m.update.meaning.admits? (Database.updateParameters user m) row =
        some covered ∧ (covered = true <-> m.Covered row) := by
  cases m with
  | deposit c amount =>
      refine ⟨true, rfl, ?_⟩
      constructor
      · intro _h c' x hleg
        cases hleg
      · intro _h
        rfl
  | withdraw c amount =>
      refine ⟨decide (amount.onWire.value ≤ row c), rfl, ?_⟩
      rw [decide_eq_true_iff, Decimal.value_onWire]
      constructor
      · intro h c' x hleg
        cases hleg
        exact h
      · intro h
        exact h c amount rfl
  | exchange source target debit credit =>
      refine ⟨decide (debit.onWire.value ≤ row source), rfl, ?_⟩
      rw [decide_eq_true_iff, Decimal.value_onWire]
      constructor
      · intro h c' x hleg
        cases hleg
        exact h
      · intro h
        exact h source debit rfl

theorem produces_update (hvalid : m.validate = .ok ()) :
    m.update.meaning.Produces (Database.updateParameters user m) row
      (fun c => row c + m.change c) := by
  cases m with
  | deposit currency amount =>
      refine ⟨List.nodup_singleton _, ?_⟩
      intro c
      by_cases hc : c = currency
      · rw [hc, Sql.Update.balance?_assigned _ _ List.lookup_cons_self]
        change some (row currency + amount.onWire.value) = some (row currency + _)
        rw [Decimal.value_onWire, Mutation.change, if_pos rfl]
      · rw [Sql.Update.balance?_kept _ _ (lookup_cons_of_ne hc _ [])]
        change some (row c) = some (row c + _)
        rw [Mutation.change, if_neg hc, add_zero]
  | withdraw currency amount =>
      refine ⟨List.nodup_singleton _, ?_⟩
      intro c
      by_cases hc : c = currency
      · rw [hc, Sql.Update.balance?_assigned _ _ List.lookup_cons_self]
        change some (row currency - amount.onWire.value) = some (row currency + _)
        rw [Decimal.value_onWire, Mutation.change, if_pos rfl, sub_eq_add_neg]
      · rw [Sql.Update.balance?_kept _ _ (lookup_cons_of_ne hc _ [])]
        change some (row c) = some (row c + _)
        rw [Mutation.change, if_neg hc, add_zero]
  | exchange source target debit credit =>
      have hne := Mutation.ne_of_validate_exchange hvalid
      constructor
      · change [source, target].Nodup
        simp [hne]
      · intro c
        by_cases hs : c = source
        · rw [hs, Sql.Update.balance?_assigned _ _ List.lookup_cons_self]
          change some (row source - debit.onWire.value) = some (row source + _)
          rw [Decimal.value_onWire, Mutation.change, if_pos rfl, if_neg hne, add_zero,
            sub_eq_add_neg]
        · by_cases ht : c = target
          · subst ht
            have hlookup : (Mutation.exchange source c debit credit).update.meaning.assignments.lookup
                c = some (.sum (.balance c) (.parameter 2)) :=
              (lookup_cons_of_ne hs _ _).trans List.lookup_cons_self
            rw [Sql.Update.balance?_assigned _ _ hlookup]
            change some (row c + credit.onWire.value) = some (row c + _)
            rw [Decimal.value_onWire, Mutation.change, if_neg hs, if_pos rfl, zero_add]
          · have hlookup : (Mutation.exchange source target debit credit).update.meaning.assignments.lookup
                c = none :=
              (lookup_cons_of_ne hs _ _).trans (lookup_cons_of_ne ht _ _)
            rw [Sql.Update.balance?_kept _ _ hlookup]
            change some (row c) = some (row c + _)
            rw [Mutation.change, if_neg hs, if_neg ht, add_zero, add_zero]

end Meaning

/-!
## Agreement
-/

/-- The rows of the database are the wallets of the books, as numbers. -/
def Ledger.HeldBy (l : Ledger) (rows : UserId -> Option Sql.NumericRow) : Prop :=
  forall user, rows user = (l.wallets.get? user).map Balances.values

namespace Database

section Agreement

variable {σ : Type} {serve : σ -> Command -> Answer × σ}
  {rows : σ -> UserId -> Option Sql.NumericRow} {s : σ} {l : Ledger} {user : UserId} {m : Mutation}

theorem heldBy_openWallet {s' : σ} {b : Balances} (hrows : l.HeldBy (rows s))
    (hafter : rows s' = Function.update (rows s) user (some b.values)) :
    (l.openWallet user b).HeldBy (rows s') := by
  intro id
  rw [hafter]
  by_cases hid : id = user
  · rw [hid, Function.update_self, Ledger.get?_openWallet_self]
    rfl
  · rw [Function.update_of_ne hid, Ledger.get?_openWallet_of_ne _ _ _ hid]
    exact hrows id

/-- Only the balance that receives something can reach the limit. -/
theorem eq_receiving_of_limit_le {b : Balances} {c : Currency} (hm : m.IsPositive)
    (hb : b.WellFormed) (hlimit : 10 ^ 18 ≤ (b.get c).value + m.change c) : c = receiving m := by
  have hlt := (hb c).left.right
  by_contra hne
  cases m with
  | deposit currency amount =>
      have hother : c ≠ currency := hne
      rw [Mutation.change, if_neg hother] at hlimit
      linarith
  | withdraw currency amount =>
      have hother : c ≠ currency := hne
      rw [Mutation.change, if_neg hother] at hlimit
      linarith
  | exchange source target debit credit =>
      have hother : c ≠ target := hne
      rw [Mutation.change, if_neg hother] at hlimit
      have hdebit : 0 < debit.value := hm.left
      split at hlimit
      next =>
        linarith
      next =>
        linarith

variable (hserver : Sql.Faithful serve rows)

include hserver

section Unmatched

variable (hvalid : m.validate = .ok ()) (hrange : m.checkRange = .ok ())
  (hanswer : (serve s (updateCommand user m)).1 = .done)
  (hafter : rows (serve s (updateCommand user m)).2 = rows s)

include hvalid hrange hanswer hafter

theorem run_apply_of_existence {c : Currency} {requested : Decimal}
    (hdebit : m.debitLeg? = some (c, requested)) :
    exists s', (apply user m).run.run serve s =
        (.error (if (rows s user).isSome then .insufficientFunds c requested
          else .walletNotFound user), s') ∧
      rows s' = rows s := by
  have hid : Sql.id? [.id user] 1 = some user := rfl
  rcases hserver.existence (s := (serve s (updateCommand user m)).2) Sql.read?_walletExists hid
    with ⟨hflag, hkept⟩
  rw [hafter] at hflag hkept
  exact ⟨_, run_apply_of_done_of_flag hvalid hrange hanswer hdebit hflag, hkept⟩

theorem run_apply_of_missing (hrow : rows s user = none) :
    exists s', (apply user m).run.run serve s = (.error (.walletNotFound user), s') ∧
      rows s' = rows s := by
  cases hdebit : m.debitLeg? with
  | none =>
      exact ⟨_, run_apply_of_done hvalid hrange hanswer hdebit, hafter⟩
  | some leg =>
      rcases run_apply_of_existence hserver hvalid hrange hanswer hafter hdebit with
        ⟨s', hrun, hkept⟩
      rw [hrow] at hrun
      exact ⟨s', hrun, hkept⟩

theorem run_apply_of_uncovered {row : Sql.NumericRow} (hrow : rows s user = some row)
    {c : Currency} {requested : Decimal} (hdebit : m.debitLeg? = some (c, requested)) :
    exists s', (apply user m).run.run serve s = (.error (.insufficientFunds c requested), s') ∧
      rows s' = rows s := by
  rcases run_apply_of_existence hserver hvalid hrange hanswer hafter hdebit with ⟨s', hrun, hkept⟩
  rw [hrow] at hrun
  exact ⟨s', hrun, hkept⟩

end Unmatched

variable (hl : l.Every Balances.WellFormed) (hrows : l.HeldBy (rows s)) (hm : m.IsPositive)
  (hplaces : m.FitsPlaces)

include hl hrows hm hplaces

omit hserver hrows in
/-- The range check refuses nothing that memory would accept. -/
theorem checkRange_of_booked {b' : Balances} (h : l.Booked user m b') : m.checkRange = .ok () := by
  rcases h with ⟨b, hget, hbooked⟩
  have hb := hl user b hget
  rcases (Mutation.exists_booked_iff hm hplaces hb).mp ⟨b', hbooked⟩ with
    ⟨hvalid, hcovered, hlimit⟩
  exact Mutation.checkRange_eq_ok_iff.mpr
    (Mutation.inBalanceRange_of_limits hm hb hcovered hlimit hvalid)

theorem run_apply_of_booked {b' : Balances} (h : l.Booked user m b') :
    exists b s', (apply user m).run.run serve s = (.ok b, s') ∧ b.values = b'.values ∧
      (l.openWallet user b').HeldBy (rows s') := by
  have hrange := checkRange_of_booked hl hm hplaces h
  rcases h with ⟨b, hget, hbooked⟩
  have hb := hl user b hget
  rcases (Mutation.exists_booked_iff hm hplaces hb).mp ⟨b', hbooked⟩ with
    ⟨hvalid, hcovered, hlimit⟩
  rcases Mutation.wellFormed_of_booked hm hplaces hb hbooked with ⟨hb', hvalue⟩
  have hrow : rows s user = some b.values := by
    rw [hrows, hget]
    rfl
  rcases admits?_update user m b.values with ⟨covered, hadmits, hiff⟩
  rw [hiff.mpr hcovered] at hadmits
  have hresult : (fun c => b.values c + m.change c) = b'.values := by
    funext c
    exact (hvalue c).symm
  have hproduces := produces_update user m b.values hvalid
  rw [hresult] at hproduces
  have hfits : forall c, Sql.FitsColumn (b'.values c) :=
    fun c => Sql.fitsColumn_of_isBalance (hb' c)
  rcases hserver.updated m.read?_update (id?_updateParameters user m) hrow hadmits hproduces hfits
    with ⟨⟨answer, hanswer, hanswered⟩, hafter⟩
  refine ⟨_, _, run_apply_of_row hvalid hrange hanswer, ?_, ?_⟩
  · rw [Balances.values_onWire]
    exact hanswered
  · exact heldBy_openWallet hrows hafter

omit hplaces in
/-- What memory refuses and the range check does not, the database refuses for the same reason. -/
theorem run_apply_of_refused (hvalid : m.validate = .ok ()) (hrange : m.checkRange = .ok ())
    {e : LedgerError} (h : l.Refused user m e) :
    exists s', (apply user m).run.run serve s = (.error e, s') ∧ rows s' = rows s := by
  have hread := m.read?_update
  have hid := id?_updateParameters user m
  cases h with
  | missing hget =>
      have hrow : rows s user = none := by
        rw [hrows, hget]
        rfl
      have hnever : forall row, rows s user = some row ->
          m.update.meaning.admits? (updateParameters user m) row = some false := by
        intro row hsome
        rw [hrow] at hsome
        cases hsome
      rcases hserver.unmatched hread hid hnever with ⟨hanswer, hafter⟩
      exact run_apply_of_missing hserver hvalid hrange hanswer hafter hrow
  | uncovered hget hleg hlt =>
      rename_i b c requested
      have hrow : rows s user = some b.values := by
        rw [hrows, hget]
        rfl
      have hnever : forall row, rows s user = some row ->
          m.update.meaning.admits? (updateParameters user m) row = some false := by
        intro row hsome
        rw [hrow] at hsome
        cases hsome
        rcases admits?_update user m b.values with ⟨covered, hadmits, hiff⟩
        cases covered with
        | false =>
            exact hadmits
        | true =>
            exact absurd (hiff.mp rfl c requested hleg) (not_le.mpr hlt)
      rcases hserver.unmatched hread hid hnever with ⟨hanswer, hafter⟩
      exact run_apply_of_uncovered hserver hvalid hrange hanswer hafter hrow hleg
  | overflow hget hcovered hlimit =>
      rename_i b c
      have hrow : rows s user = some b.values := by
        rw [hrows, hget]
        rfl
      rcases admits?_update user m b.values with ⟨covered, hadmits, hiff⟩
      rw [hiff.mpr hcovered] at hadmits
      rcases hserver.overflow hread hid hrow hadmits (produces_update user m _ hvalid)
        ⟨c, hlimit⟩ with ⟨⟨fault, hanswer, hstate⟩, hafter⟩
      have herror : updateError m (.server fault) = .amountOutOfRange c := by
        rw [updateError, numericOutOfRange, if_pos hstate, eq_receiving_of_limit_le hm (hl user b hget) hlimit]
      have hrun := run_apply_of_fault hvalid hrange hanswer
      rw [herror] at hrun
      exact ⟨_, hrun, hafter⟩

theorem run_apply_of_not_booked (h : ¬ exists b', l.Booked user m b') :
    exists e s', (apply user m).run.run serve s = (.error e, s') ∧ rows s' = rows s := by
  cases hvalid : m.validate with
  | error e =>
      exact ⟨e, s, run_apply_of_validate hvalid, rfl⟩
  | ok u =>
      cases hrange : m.checkRange with
      | error e =>
          exact ⟨e, s, run_apply_of_checkRange hvalid hrange, rfl⟩
      | ok u' =>
          cases houtcome : l.outcome user m with
          | error e =>
              have hrefused := Ledger.refused_of_outcome hl hm hplaces hvalid houtcome
              exact ⟨e, run_apply_of_refused hserver hl hrows hm hvalid hrange hrefused⟩
          | ok b' =>
              exact absurd ⟨b', Ledger.outcome_eq_ok_iff.mp houtcome⟩ h

end Agreement

/-- A database and memory that hold the same wallets accept the same mutations, with the same
numbers in the new wallet, and they still hold the same wallets afterwards. What the range
check refuses, memory refuses too. -/
theorem apply_agrees {σ : Type} {serve : σ -> Command -> Answer × σ}
    {rows : σ -> UserId -> Option Sql.NumericRow} (hserver : Sql.Faithful serve rows) {s : σ}
    {l : Ledger} (hl : l.Every Balances.WellFormed) (hrows : l.HeldBy (rows s)) (user : UserId)
    {m : Mutation} (hm : m.IsPositive) (hplaces : m.FitsPlaces) :
    let database := (apply user m).run.run serve s
    let memory := l.apply user m
    (forall row, (exists b, database.1 = .ok b ∧ b.values = row) <->
        exists b, memory.1 = .ok b ∧ b.values = row) ∧
      memory.2.HeldBy (rows database.2) ∧
      (m.checkRange ≠ .ok () -> exists e, memory.1 = .error e) := by
  rcases Ledger.apply_cases l user m with ⟨e', hmemory⟩ | ⟨b', hbooked, hmemory⟩
  · have hnot : ¬ exists b', l.Booked user m b' := by
      intro hbooked
      rcases hbooked with ⟨b', hbooked⟩
      rw [Ledger.apply_of_booked hbooked] at hmemory
      cases hmemory
    rcases run_apply_of_not_booked hserver hl hrows hm hplaces hnot with ⟨e, s', hrun, hafter⟩
    rw [hrun, hmemory]
    refine ⟨?_, ?_, ?_⟩
    · intro row
      constructor
      · intro h
        rcases h with ⟨b, hb, _hrow⟩
        cases hb
      · intro h
        rcases h with ⟨b, hb, _hrow⟩
        cases hb
    · rw [hafter]
      exact hrows
    · intro _hrange
      exact ⟨e', rfl⟩
  · rcases run_apply_of_booked hserver hl hrows hm hplaces hbooked with
      ⟨b, s', hrun, hvalues, hafter⟩
    rw [hrun, hmemory]
    refine ⟨?_, hafter, ?_⟩
    · intro row
      constructor
      · intro h
        rcases h with ⟨b₀, hb₀, hrow⟩
        cases hb₀
        exact ⟨b', rfl, hvalues.symm.trans hrow⟩
      · intro h
        rcases h with ⟨b₀, hb₀, hrow⟩
        cases hb₀
        exact ⟨b, rfl, hvalues.trans hrow⟩
    · intro hrange
      exact absurd (checkRange_of_booked hl hm hplaces hbooked) hrange

theorem apply_agrees_hundred_roubles :
    let roubles : Balances := ⟨⟨false, 5000, 1, by decide, by decide⟩, .zero, .zero⟩
    let l := Ledger.empty.openWallet default roubles
    let t : Sql.Table := fun user => (l.wallets.get? user).map Balances.values
    let m := Mutation.exchange .rub .usd ⟨false, 10050, 2, by decide, by decide⟩
      ⟨false, 13065, 4, by decide, by decide⟩
    Sql.Faithful Sql.Table.serve (fun t => t) ∧ l.Every Balances.WellFormed ∧ l.HeldBy t ∧
      m.IsPositive ∧ m.FitsPlaces ∧
      (let database := (apply default m).run.run Sql.Table.serve t
      let memory := l.apply default m
      (forall row, (exists b, database.1 = .ok b ∧ b.values = row) <->
          exists b, memory.1 = .ok b ∧ b.values = row) ∧
        memory.2.HeldBy database.2 ∧
        (m.checkRange ≠ .ok () -> exists e, memory.1 = .error e)) := by
  intro roubles l t m
  have hl : l.Every Balances.WellFormed :=
    Ledger.every_openWallet Ledger.empty default roubles Ledger.every_empty (by decide)
  have hrows : l.HeldBy t := fun _user => rfl
  have hm : m.IsPositive := by decide
  have hplaces : m.FitsPlaces := by decide
  exact ⟨Sql.Table.faithful_serve, hl, hrows, hm, hplaces,
    apply_agrees Sql.Table.faithful_serve hl hrows default hm hplaces⟩

end Database

end CurrencyWallet
