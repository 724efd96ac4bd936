import CurrencyWallet.Proofs.Directory
import CurrencyWallet.Proofs.Ledger.Booking

/-!
# Registrations

A registration is refused when the name or the address is taken, and otherwise it enters one user
and opens one wallet. So the users can be told apart by name, by address and by id, and there is
one wallet for each of them, however many registrations and mutations there have been.
-/

namespace CurrencyWallet

namespace Ledger

/-!
## One registration
-/

def EmailStored (l : Ledger) (email : String) : Prop :=
  exists name r, l.users.get? name = some r ∧ r.email = email

def record (id : UserId) (createdAt : Timestamp) (u : NewUser) : User :=
  ⟨id, u.username, u.email, u.passwordHash, createdAt⟩

def enrol (l : Ledger) (id : UserId) (createdAt : Timestamp) (u : NewUser) : Ledger where
  wallets := l.wallets.insert id .zero
  users := l.users.insert u.username (record id createdAt u)

section Enrol

variable (l : Ledger) (id : UserId) (createdAt : Timestamp) (u : NewUser)

theorem get?_wallets_enrol (id' : UserId) :
    (l.enrol id createdAt u).wallets.get? id' =
      if id' = id then some .zero else l.wallets.get? id' :=
  Directory.get?_insert _ _ _ _

theorem get?_users_enrol (name : String) :
    (l.enrol id createdAt u).users.get? name =
      if name = u.username then some (record id createdAt u) else l.users.get? name :=
  Directory.get?_insert _ _ _ _

end Enrol

theorem findUser_eq_ok_iff {l : Ledger} {username : String} {r : User} :
    l.findUser username = .ok r <-> l.users.get? username = some r := by
  unfold findUser
  cases l.users.get? username with
  | none =>
      simp
  | some r' =>
      simp

inductive Registered (l : Ledger) (id : UserId) (createdAt : Timestamp) (u : NewUser) :
    Except LedgerError UserId × Ledger -> Prop where
  | nameTaken :
      (l.users.get? u.username).isSome ->
      Registered l id createdAt u (.error (.usernameTaken u.username), l)
  | emailTaken :
      l.users.get? u.username = none ->
      l.EmailStored u.email ->
      Registered l id createdAt u (.error (.emailTaken u.email), l)
  | enrolled :
      l.users.get? u.username = none ->
      ¬ l.EmailStored u.email ->
      Registered l id createdAt u (.ok id, l.enrol id createdAt u)

theorem any_email_iff (l : Ledger) (email : String) :
    l.users.values.any (fun r => r.email = email) = true <-> l.EmailStored email := by
  rw [List.any_eq_true]
  constructor
  · intro h
    rcases h with ⟨r, hr, hemail⟩
    rcases (Directory.mem_values_iff l.users r).mp hr with ⟨name, hname⟩
    exact ⟨name, r, hname, of_decide_eq_true hemail⟩
  · intro h
    rcases h with ⟨name, r, hname, hemail⟩
    exact ⟨r, (Directory.mem_values_iff l.users r).mpr ⟨name, hname⟩, decide_eq_true hemail⟩

theorem register_registered (l : Ledger) (id : UserId) (createdAt : Timestamp) (u : NewUser) :
    l.Registered id createdAt u (l.register id createdAt u) := by
  rw [register, registrationError?, Directory.contains]
  cases hname : l.users.get? u.username with
  | some r =>
      exact Registered.nameTaken (by rw [hname]; rfl)
  | none =>
      by_cases hemail : l.EmailStored u.email
      · rw [if_neg (by simp), if_pos ((l.any_email_iff u.email).mpr hemail)]
        exact Registered.emailTaken hname hemail
      · rw [if_neg (by simp), if_neg (fun hany => hemail ((l.any_email_iff u.email).mp hany))]
        exact Registered.enrolled hname hemail

/-!
## Order
-/

/-- Users are kept under their names, differ in their addresses and ids, and are those who have
a wallet. -/
structure Orderly (l : Ledger) : Prop where
  username_eq : forall name r, l.users.get? name = some r -> r.username = name
  emails : l.users.Distinguishes User.email
  ids : l.users.Distinguishes User.id
  wallet_iff : forall id, (l.wallets.get? id).isSome <->
    exists name r, l.users.get? name = some r ∧ r.id = id

theorem orderly_empty : empty.Orderly where
  username_eq := fun _name _r h => by cases h
  emails := Directory.distinguishes_empty _
  ids := Directory.distinguishes_empty _
  wallet_iff := by
    intro id
    constructor
    · intro h
      cases h
    · intro h
      rcases h with ⟨name, r, hname, _hid⟩
      cases hname

section Orderly

variable {l : Ledger} (h : l.Orderly)

include h

theorem Orderly.usernames : l.users.Distinguishes User.username := by
  intro name name' r r' hname hname' heq
  rw [← h.username_eq name r hname, ← h.username_eq name' r' hname']
  exact heq

theorem Orderly.id_ne {id : UserId} (hid : l.wallets.get? id = none) {name : String} {r : User}
    (hname : l.users.get? name = some r) : r.id ≠ id := by
  intro heq
  have hsome := (h.wallet_iff id).mpr ⟨name, r, hname, heq⟩
  rw [hid] at hsome
  cases hsome

theorem Orderly.enrol {id : UserId} {u : NewUser} (createdAt : Timestamp)
    (hid : l.wallets.get? id = none) (hname : l.users.get? u.username = none)
    (hemail : ¬ l.EmailStored u.email) : (l.enrol id createdAt u).Orderly where
  username_eq := by
    intro name r hget
    rw [get?_users_enrol] at hget
    split at hget
    next heq =>
      cases hget
      exact heq.symm
    next =>
      exact h.username_eq name r hget
  emails := h.emails.insert (fun name r hget heq => hemail ⟨name, r, hget, heq⟩)
  ids := h.ids.insert (fun _name _r hget => h.id_ne hid hget)
  wallet_iff := by
    intro id'
    rw [get?_wallets_enrol]
    by_cases hid' : id' = id
    · rw [if_pos hid', hid']
      have hnew : (l.enrol id createdAt u).users.get? u.username = some (record id createdAt u) := by
        rw [get?_users_enrol, if_pos rfl]
      exact ⟨fun _h => ⟨u.username, _, hnew, rfl⟩, fun _h => rfl⟩
    · rw [if_neg hid', h.wallet_iff id']
      constructor
      · intro hex
        rcases hex with ⟨name, r, hget, hr⟩
        have hne : name ≠ u.username := by
          intro heq
          rw [heq, hname] at hget
          cases hget
        exact ⟨name, r, by rw [get?_users_enrol, if_neg hne]; exact hget, hr⟩
      · intro hex
        rcases hex with ⟨name, r, hget, hr⟩
        rw [get?_users_enrol] at hget
        split at hget
        next =>
          cases hget
          exact absurd hr.symm hid'
        next =>
          exact ⟨name, r, hget, hr⟩

theorem Orderly.apply (user : UserId) (m : Mutation) : (l.apply user m).2.Orderly := by
  rcases l.apply_cases user m with ⟨e, happly⟩ | ⟨b', hbooked, happly⟩
  · rw [happly]
    exact h
  · rw [happly]
    refine ⟨h.username_eq, h.emails, h.ids, ?_⟩
    intro id
    refine Iff.trans ?_ (h.wallet_iff id)
    rcases hbooked with ⟨b, hget, _hbooked⟩
    by_cases hid : id = user
    · rw [hid, get?_openWallet_self, hget]
      exact Iff.rfl
    · rw [get?_openWallet_of_ne l user b' hid]

end Orderly

/-!
## Whatever has happened before
-/

/-- What registrations and mutations make of empty books, when every registration brings an id
that nobody has. -/
inductive Reachable : Ledger -> Prop where
  | empty : Reachable empty
  | register {l : Ledger} {id : UserId} {createdAt : Timestamp} {u : NewUser} :
      Reachable l ->
      l.wallets.get? id = none ->
      Reachable (l.register id createdAt u).2
  | apply {l : Ledger} {user : UserId} {m : Mutation} :
      Reachable l ->
      Reachable (l.apply user m).2

theorem Orderly.register {l : Ledger} (h : l.Orderly) {id : UserId} (createdAt : Timestamp)
    (u : NewUser) (hid : l.wallets.get? id = none) : (l.register id createdAt u).2.Orderly := by
  have hregistered := l.register_registered id createdAt u
  generalize l.register id createdAt u = outcome at hregistered ⊢
  cases hregistered with
  | nameTaken _hname =>
      exact h
  | emailTaken _hname _hemail =>
      exact h
  | enrolled hname hemail =>
      exact h.enrol createdAt hid hname hemail

theorem Reachable.orderly {l : Ledger} (h : l.Reachable) : l.Orderly := by
  induction h with
  | empty =>
      exact orderly_empty
  | register _hl hid ih =>
      exact ih.register _ _ hid
  | apply _hl ih =>
      exact ih.apply _ _

/-- The second books are the first with one more user and one more wallet, which is empty. -/
structure OneMore (l : Ledger) (id : UserId) (createdAt : Timestamp) (u : NewUser) (l' : Ledger) :
    Prop where
  wallet : l'.wallets.get? id = some .zero
  other_wallets : forall id', id' ≠ id -> l'.wallets.get? id' = l.wallets.get? id'
  walletCount_eq : l'.walletCount = l.walletCount + 1
  found : l'.findUser u.username = .ok ⟨id, u.username, u.email, u.passwordHash, createdAt⟩
  other_users : forall name, name ≠ u.username -> l'.users.get? name = l.users.get? name
  userCount_eq : l'.users.size = l.users.size + 1

theorem oneMore_enrol {l : Ledger} {id : UserId} {u : NewUser} (createdAt : Timestamp)
    (hid : l.wallets.get? id = none) (hname : l.users.get? u.username = none) :
    l.OneMore id createdAt u (l.enrol id createdAt u) where
  wallet := by
    rw [get?_wallets_enrol, if_pos rfl]
  other_wallets := by
    intro id' hne
    rw [get?_wallets_enrol, if_neg hne]
  walletCount_eq := Directory.size_insert_of_get?_eq_none hid _
  found := by
    rw [findUser_eq_ok_iff, get?_users_enrol, if_pos rfl]
    rfl
  other_users := by
    intro name hne
    rw [get?_users_enrol, if_neg hne]
  userCount_eq := Directory.size_insert_of_get?_eq_none hname _

section Registered

variable {l : Ledger} {id : UserId} {createdAt : Timestamp} {u : NewUser}
  {outcome : Except LedgerError UserId × Ledger} (h : l.Registered id createdAt u outcome)

include h

theorem Registered.nameTaken_iff :
    (exists name, outcome.1 = .error (.usernameTaken name)) <->
      (l.users.get? u.username).isSome := by
  cases h with
  | nameTaken hname =>
      exact ⟨fun _h => hname, fun _h => ⟨_, rfl⟩⟩
  | emailTaken hname _hemail =>
      simp [hname]
  | enrolled hname _hemail =>
      simp [hname]

theorem Registered.emailTaken_iff :
    (exists email, outcome.1 = .error (.emailTaken email)) <->
      l.users.get? u.username = none ∧ l.EmailStored u.email := by
  cases h with
  | nameTaken hname =>
      simp [Option.isSome_iff_ne_none.mp hname]
  | emailTaken hname hemail =>
      exact ⟨fun _h => ⟨hname, hemail⟩, fun _h => ⟨_, rfl⟩⟩
  | enrolled _hname hemail =>
      simp [hemail]

theorem Registered.of_error {e : LedgerError} (he : outcome.1 = .error e) :
    (e = .usernameTaken u.username ∨ e = .emailTaken u.email) ∧ outcome.2 = l := by
  cases h with
  | nameTaken _hname =>
      cases he
      exact ⟨Or.inl rfl, rfl⟩
  | emailTaken _hname _hemail =>
      cases he
      exact ⟨Or.inr rfl, rfl⟩
  | enrolled _hname _hemail =>
      cases he

theorem Registered.of_ok {new : UserId} (hnew : outcome.1 = .ok new) :
    new = id ∧ (l.wallets.get? id = none -> l.OneMore id createdAt u outcome.2) := by
  cases h with
  | nameTaken _hname =>
      cases hnew
  | emailTaken _hname _hemail =>
      cases hnew
  | enrolled hname _hemail =>
      cases hnew
      exact ⟨rfl, fun hid => oneMore_enrol createdAt hid hname⟩

end Registered

/-- However many users have registered under ids of their own, and whatever has been booked: users
can be told apart by name, by address and by id, and they are those who have a wallet. A further
registration is refused exactly when the name is taken or else the address is, and then nothing
changes; otherwise there is one user more and one empty wallet more, and nothing else changes. -/
theorem registrations_in_order {l : Ledger} (hl : l.Reachable) :
    (l.users.Distinguishes User.username ∧ l.users.Distinguishes User.email ∧
      l.users.Distinguishes User.id) ∧
      (forall id, (l.wallets.get? id).isSome <->
        exists name r, l.users.get? name = some r ∧ r.id = id) ∧
      forall id createdAt u,
        let outcome := l.register id createdAt u
        ((exists name, outcome.1 = .error (.usernameTaken name)) <->
            (l.users.get? u.username).isSome) ∧
          ((exists email, outcome.1 = .error (.emailTaken email)) <->
            l.users.get? u.username = none ∧ l.EmailStored u.email) ∧
          (forall e, outcome.1 = .error e ->
            (e = .usernameTaken u.username ∨ e = .emailTaken u.email) ∧ outcome.2 = l) ∧
          (forall new, outcome.1 = .ok new ->
            new = id ∧ (l.wallets.get? id = none -> l.OneMore id createdAt u outcome.2)) := by
  have horder := hl.orderly
  refine ⟨⟨horder.usernames, horder.emails, horder.ids⟩, horder.wallet_iff, ?_⟩
  intro id createdAt u outcome
  have hregistered : l.Registered id createdAt u outcome := l.register_registered id createdAt u
  exact ⟨hregistered.nameTaken_iff, hregistered.emailTaken_iff,
    fun _e he => hregistered.of_error he, fun _new hnew => hregistered.of_ok hnew⟩

theorem registrations_in_order_three_more :
    let now : Timestamp := .ofMilliseconds 0
    let l := (((empty.register (.serial 1) now ⟨"ann", "ann@example.com", "a"⟩).2.apply
      (.serial 1) (.deposit .rub ⟨false, 500, 2, by decide, by decide⟩)).2.register (.serial 2)
        now ⟨"bob", "bob@example.com", "b"⟩).2
    let carl : NewUser := ⟨"carl", "carl@example.com", "c"⟩
    l.Reachable ∧ l.users.size = 2 ∧ l.users.Distinguishes User.email ∧
      (exists name, (l.register (.serial 3) now ⟨"ann", "bob@example.com", "c"⟩).1 =
        .error (.usernameTaken name)) ∧
      (exists email, (l.register (.serial 3) now ⟨"carl", "bob@example.com", "c"⟩).1 =
        .error (.emailTaken email)) ∧
      l.OneMore (.serial 3) now carl (l.register (.serial 3) now carl).2 := by
  intro now l carl
  have hl : l.Reachable :=
    Reachable.register (Reachable.apply (Reachable.register Reachable.empty (by decide)))
      (by decide)
  rcases registrations_in_order hl with ⟨⟨_husernames, hemails, _hids⟩, _hwallets, hnext⟩
  rcases hnext (.serial 3) now ⟨"ann", "bob@example.com", "c"⟩ with ⟨hname, _hrest⟩
  rcases hnext (.serial 3) now ⟨"carl", "bob@example.com", "c"⟩ with ⟨_hname, hemail, _hrest⟩
  rcases hnext (.serial 3) now carl with ⟨_hname, _hemail, _herror, hok⟩
  refine ⟨hl, by decide, hemails, hname.mpr (by decide), hemail.mpr ⟨by decide, ?_⟩, ?_⟩
  · exact (l.any_email_iff _).mp (by decide)
  · exact (hok (.serial 3) (by decide)).right (by decide)

end Ledger

end CurrencyWallet
