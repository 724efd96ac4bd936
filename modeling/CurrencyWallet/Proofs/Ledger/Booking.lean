import CurrencyWallet.Ledger.Basic
import CurrencyWallet.Proofs.Ledger.Mutation

/-!
# What a mutation does to the books

The books change in two ways: a mutation replaces the contents of one wallet, and a
registration opens an empty one. Whatever is refused leaves the books as they are.
-/

namespace CurrencyWallet

namespace Ledger

def Every (p : Balances -> Prop) (l : Ledger) : Prop :=
  forall id b, l.wallets.get? id = some b -> p b

/-- What a user holds of a currency, as a number. A user without a wallet holds nothing. -/
def held (l : Ledger) (id : UserId) (c : Currency) : ℚ :=
  match l.wallets.get? id with
  | some b => (b.get c).value
  | none => 0

def Booked (l : Ledger) (id : UserId) (m : Mutation) (b' : Balances) : Prop :=
  exists b, l.wallets.get? id = some b ∧ Mutation.Booked b m b'

theorem forall_get?_of_eq_some {p : Balances -> Prop} {l : Ledger} {id : UserId} {b : Balances}
    (hget : l.wallets.get? id = some b) (hb : p b) :
    forall b', l.wallets.get? id = some b' -> p b' := by
  intro b' hget'
  rw [hget] at hget'
  cases hget'
  exact hb

theorem every_empty {p : Balances -> Prop} : empty.Every p := by
  intro id b hget
  cases hget

section OpenWallet

variable (l : Ledger) (id : UserId) (b : Balances)

theorem get?_openWallet_self : (l.openWallet id b).wallets.get? id = some b := by
  change (l.wallets.insert id b).get? id = some b
  rw [Directory.get?_insert, if_pos rfl]

theorem get?_openWallet_of_ne {id' : UserId} (h : id' ≠ id) :
    (l.openWallet id b).wallets.get? id' = l.wallets.get? id' := by
  change (l.wallets.insert id b).get? id' = l.wallets.get? id'
  rw [Directory.get?_insert, if_neg h]

theorem isSome_get?_openWallet {id' : UserId} (h : (l.wallets.get? id').isSome) :
    ((l.openWallet id b).wallets.get? id').isSome := by
  by_cases hid : id' = id
  · rw [hid, get?_openWallet_self]
    rfl
  · rw [get?_openWallet_of_ne l id b hid]
    exact h

theorem held_openWallet_self (c : Currency) :
    (l.openWallet id b).held id c = (b.get c).value := by
  rw [held, get?_openWallet_self]

theorem held_openWallet_of_ne {id' : UserId} (h : id' ≠ id) (c : Currency) :
    (l.openWallet id b).held id' c = l.held id' c := by
  rw [held, get?_openWallet_of_ne l id b h, held]

theorem every_openWallet {p : Balances -> Prop} (hl : l.Every p) (hb : p b) :
    (l.openWallet id b).Every p := by
  intro id' b' hget
  by_cases h : id' = id
  · subst h
    rw [get?_openWallet_self] at hget
    cases hget
    exact hb
  · rw [get?_openWallet_of_ne l id b h] at hget
    exact hl id' b' hget

end OpenWallet

/-!
## Mutations
-/

theorem balances_eq_ok_iff {l : Ledger} {id : UserId} {b : Balances} :
    l.balances id = .ok b <-> l.wallets.get? id = some b := by
  unfold balances
  cases l.wallets.get? id with
  | none =>
      simp
  | some b' =>
      simp

theorem outcome_eq_ok_iff {l : Ledger} {id : UserId} {m : Mutation} {b' : Balances} :
    l.outcome id m = .ok b' <-> l.Booked id m b' := by
  constructor
  · intro h
    rcases bind_eq_ok_iff.mp h with ⟨b, hbalances, happly⟩
    exact ⟨b, balances_eq_ok_iff.mp hbalances, Mutation.booked_of_apply happly⟩
  · intro h
    rcases h with ⟨b, hget, hbooked⟩
    exact bind_eq_ok_iff.mpr
      ⟨b, balances_eq_ok_iff.mpr hget, Mutation.apply_of_booked hbooked⟩

theorem apply_of_booked {l : Ledger} {id : UserId} {m : Mutation} {b' : Balances}
    (h : l.Booked id m b') : l.apply id m = (.ok b', l.openWallet id b') := by
  rw [apply, outcome_eq_ok_iff.mpr h]

theorem apply_cases (l : Ledger) (id : UserId) (m : Mutation) :
    (exists e, l.apply id m = (.error e, l)) ∨
      exists b', l.Booked id m b' ∧ l.apply id m = (.ok b', l.openWallet id b') := by
  cases houtcome : l.outcome id m with
  | error e =>
      left
      exact ⟨e, by rw [apply, houtcome]⟩
  | ok b' =>
      right
      have hbooked := outcome_eq_ok_iff.mp houtcome
      exact ⟨b', hbooked, apply_of_booked hbooked⟩

theorem every_withinBounds_of_booked {l : Ledger} {id : UserId} {m : Mutation} {b' : Balances}
    (hl : l.Every Balances.WithinBounds) (hm : m.IsPositive) (h : l.Booked id m b') :
    (l.openWallet id b').Every Balances.WithinBounds := by
  rcases h with ⟨b, hget, hbooked⟩
  exact every_openWallet l id b' hl (Mutation.withinBounds_of_booked hbooked hm (hl id b hget))

theorem wellFormed_of_booked {l : Ledger} {id : UserId} {m : Mutation} {b' : Balances}
    (hl : l.Every Balances.WellFormed) (hm : m.IsPositive) (hplaces : m.FitsPlaces)
    (h : l.Booked id m b') :
    (l.openWallet id b').Every Balances.WellFormed ∧
      forall id' c, (l.openWallet id b').held id' c =
        l.held id' c + if id' = id then m.change c else 0 := by
  rcases h with ⟨b, hget, hbooked⟩
  rcases Mutation.wellFormed_of_booked hm hplaces (hl id b hget) hbooked with ⟨hb', hvalue⟩
  constructor
  · exact every_openWallet l id b' hl hb'
  · intro id' c
    by_cases hid : id' = id
    · subst hid
      rw [held_openWallet_self, hvalue, if_pos rfl, held, hget]
    · rw [held_openWallet_of_ne l id b' hid, if_neg hid, add_zero]

/-!
## Registrations
-/

theorem register_cases (l : Ledger) (id : UserId) (createdAt : Timestamp) (u : NewUser) :
    (exists e, l.register id createdAt u = (.error e, l)) ∨
      exists users, l.register id createdAt u =
        (.ok id, { l.openWallet id .zero with users := users }) := by
  unfold register
  cases l.registrationError? u with
  | some e =>
      exact Or.inl ⟨e, rfl⟩
  | none =>
      exact Or.inr ⟨_, rfl⟩

end Ledger

end CurrencyWallet
