import CurrencyWallet.Proofs.Database.Agreement

/-!
# Two ways to say no

Memory refuses a mutation by looking at the wallet. The database looks at the amounts first,
and at the wallet only when every amount could be held by some wallet. So where an amount is out of
range the two give different reasons, unless the wallet is there and covers the debit; in all
other cases they give the same one.
-/

namespace CurrencyWallet

namespace Database

theorem checkRange_eq_error {m : Mutation} {e : LedgerError} (h : m.checkRange = .error e) :
    exists c x, (c, x) ∈ m.legs ∧ ¬ x.InBalanceRange ∧ e = .amountOutOfRange c := by
  unfold Mutation.checkRange at h
  split at h
  next c x hfind =>
    cases h
    have hout := List.find?_some hfind
    exact ⟨c, x, List.mem_of_find?_eq_some hfind, of_decide_eq_true hout, rfl⟩
  next =>
    cases h

/-- What is taken from a wallet that covers it is in range, so what is not is received. -/
theorem checkRange_eq_error_of_covered {m : Mutation} {b : Balances} {e : LedgerError}
    (hm : m.IsPositive) (hb : b.WellFormed) (hcovered : m.Covered b.values)
    (h : m.checkRange = .error e) : e = .amountOutOfRange (receiving m) := by
  have hdebit : forall c x, m.debitLeg? = some (c, x) -> 0 ≤ x.value -> x.InBalanceRange := by
    intro c x hleg hnonneg
    rw [Decimal.inBalanceRange_iff, abs_of_nonneg hnonneg]
    exact lt_of_le_of_lt (hcovered c x hleg) (hb c).left.right
  rcases checkRange_eq_error h with ⟨c, x, hleg, hout, rfl⟩
  cases m with
  | deposit currency amount =>
      cases List.mem_singleton.mp hleg
      rfl
  | withdraw currency amount =>
      cases List.mem_singleton.mp hleg
      rfl
  | exchange source target debit credit =>
      rcases List.mem_pair.mp hleg with hsource | htarget
      · cases hsource
        exact absurd (hdebit _ _ rfl (le_of_lt hm.left)) hout
      · cases htarget
        rfl

theorem outcome_of_apply_eq_error {l : Ledger} {user : UserId} {m : Mutation} {e : LedgerError}
    (h : (l.apply user m).1 = .error e) : l.outcome user m = .error e := by
  unfold Ledger.apply at h
  split at h
  next =>
    cases h
  next houtcome =>
    cases h
    exact houtcome

/-- A database and memory that hold the same wallets, and both refuse a mutation that the rules
allow, give the same reason exactly when the amounts are in range, or the wallet is there and
covers the debit. Otherwise the database complains about the amount. -/
theorem refusals_agree_iff {σ : Type} {serve : σ -> Command -> Answer × σ}
    {rows : σ -> UserId -> Option Sql.NumericRow} (hserver : Sql.Faithful serve rows) {s : σ}
    {l : Ledger} (hl : l.Every Balances.WellFormed) (hrows : l.HeldBy (rows s)) (user : UserId)
    {m : Mutation} (hm : m.IsPositive) (hplaces : m.FitsPlaces) (hvalid : m.validate = .ok ())
    {e e' : LedgerError} (hdatabase : ((apply user m).run.run serve s).1 = .error e)
    (hmemory : (l.apply user m).1 = .error e') :
    (e = e' <-> m.checkRange = .ok () ∨
        exists b, l.wallets.get? user = some b ∧ m.Covered b.values) ∧
      (m.checkRange ≠ .ok () -> m.checkRange = .error e) := by
  have hrefused : l.Refused user m e' :=
    Ledger.refused_of_outcome hl hm hplaces hvalid (outcome_of_apply_eq_error hmemory)
  -- The database looks at the amounts before it looks at the row, and memory does not. Where the
  -- amounts pass, both look at the same row for the same reasons.
  cases hrange : m.checkRange with
  | ok u =>
      rcases run_apply_of_refused hserver hl hrows hm hvalid hrange hrefused with ⟨s', hrun, _hrows⟩
      rw [hrun] at hdatabase
      cases hdatabase
      exact ⟨⟨fun _h => Or.inl rfl, fun _h => rfl⟩, fun h => absurd rfl h⟩
  | error e₀ =>
      rw [run_apply_of_checkRange hvalid hrange] at hdatabase
      cases hdatabase
      refine ⟨?_, fun _h => rfl⟩
      rcases checkRange_eq_error hrange with ⟨c₀, x₀, _hleg, _hout, rfl⟩
      cases hrefused with
      | missing hget =>
          constructor
          · intro heq
            cases heq
          · intro h
            rcases h with hok | ⟨b, hb, _hcovered⟩
            · cases hok
            · rw [hget] at hb
              cases hb
      | uncovered hget hleg hlt =>
          constructor
          · intro heq
            cases heq
          · intro h
            rcases h with hok | ⟨b, hb, hcovered⟩
            · cases hok
            · rw [hget] at hb
              cases hb
              exact absurd (hcovered _ _ hleg) (not_le.mpr hlt)
      | overflow hget hcovered hlimit =>
          have hb := hl user _ hget
          constructor
          · intro _heq
            exact Or.inr ⟨_, hget, hcovered⟩
          · intro _h
            rw [checkRange_eq_error_of_covered hm hb hcovered hrange,
              eq_receiving_of_limit_le hm hb hlimit]

theorem refusals_agree_six_hundred_roubles :
    let roubles : Balances := ⟨⟨false, 500, 0, by decide, by decide⟩, .zero, .zero⟩
    let l := Ledger.empty.openWallet default roubles
    let t : Sql.Table := fun user => (l.wallets.get? user).map Balances.values
    let requested : Decimal := ⟨false, 600, 0, by decide, by decide⟩
    let m := Mutation.withdraw .rub requested
    let e := LedgerError.insufficientFunds .rub requested
    (Sql.Faithful Sql.Table.serve (fun t => t) ∧ l.Every Balances.WellFormed ∧ l.HeldBy t ∧
      m.IsPositive ∧ m.FitsPlaces ∧ m.validate = .ok () ∧
      ((apply default m).run.run Sql.Table.serve t).1 = .error e ∧
      (l.apply default m).1 = .error e) ∧
      (e = e <-> m.checkRange = .ok () ∨
        exists b, l.wallets.get? default = some b ∧ m.Covered b.values) ∧
      (m.checkRange ≠ .ok () -> m.checkRange = .error e) := by
  intro roubles l t requested m e
  have hserver : Sql.Faithful Sql.Table.serve (fun t => t) := Sql.Table.faithful_serve
  have hl : l.Every Balances.WellFormed :=
    Ledger.every_openWallet Ledger.empty default roubles Ledger.every_empty (by decide)
  have hrows : l.HeldBy t := fun _user => rfl
  have hm : m.IsPositive := by decide
  have hplaces : m.FitsPlaces := by decide
  have hmemory : (l.apply default m).1 = .error e := by decide
  have hrefused : l.Refused default m e :=
    Ledger.refused_of_outcome hl hm hplaces rfl (outcome_of_apply_eq_error hmemory)
  rcases run_apply_of_refused hserver hl hrows hm rfl (by decide) hrefused with ⟨t', hrun, _hrows⟩
  have hdatabase : ((apply default m).run.run Sql.Table.serve t).1 = .error e := by
    rw [hrun]
  exact ⟨⟨hserver, hl, hrows, hm, hplaces, rfl, hdatabase, hmemory⟩,
    refusals_agree_iff hserver hl hrows default hm hplaces rfl hdatabase hmemory⟩

/-- A quintillion roubles are not taken out of five hundred either. Memory misses the funds, and
the database does not look for them. -/
theorem refusals_differ_quintillion_roubles :
    let roubles : Balances := ⟨⟨false, 500, 0, by decide, by decide⟩, .zero, .zero⟩
    let l := Ledger.empty.openWallet default roubles
    let t : Sql.Table := fun user => (l.wallets.get? user).map Balances.values
    let m := Mutation.withdraw .rub .limit
    (Sql.Faithful Sql.Table.serve (fun t => t) ∧ l.Every Balances.WellFormed ∧ l.HeldBy t ∧
      m.IsPositive ∧ m.FitsPlaces ∧ m.validate = .ok ()) ∧
      ((apply default m).run.run Sql.Table.serve t).1 = .error (.amountOutOfRange .rub) ∧
      (l.apply default m).1 = .error (.insufficientFunds .rub .limit) := by
  intro roubles l t m
  have hl : l.Every Balances.WellFormed :=
    Ledger.every_openWallet Ledger.empty default roubles Ledger.every_empty (by decide)
  have hrange : m.checkRange = .error (.amountOutOfRange .rub) := by decide
  have hrun : (apply default m).run.run Sql.Table.serve t = (.error (.amountOutOfRange .rub), t) :=
    run_apply_of_checkRange rfl hrange
  refine ⟨⟨Sql.Table.faithful_serve, hl, fun _user => rfl, by decide, by decide, rfl⟩, ?_, ?_⟩
  · rw [hrun]
  · decide

end Database

end CurrencyWallet
