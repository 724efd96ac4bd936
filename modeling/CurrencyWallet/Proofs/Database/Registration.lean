import CurrencyWallet.Proofs.Database.Course

/-!
# What is reported of a registration

A user and the wallet are entered in one transaction, which is committed only when both have been
entered. So both last or neither does, and the id is given out when the transaction is committed.
Only what goes wrong with the entry of the user can be a matter of names and addresses.
-/

namespace CurrencyWallet

/-- What lasts of commands that are carried out on one connection before it is given up. The first
argument is what has been done in a transaction that is under way. -/
def lasting : Option (List Command) -> List Command -> List Command
  | _, [] => []
  | done?, .begin :: rest => lasting (some (done?.getD [])) rest
  | done?, .commit :: rest => done?.getD [] ++ lasting none rest
  | some done, c :: rest => lasting (some (done ++ [c])) rest
  | none, c :: rest => c :: lasting none rest

/-- The server has refused an entry that a constraint allows only once. -/
def DatabaseFault.Violates (f : DatabaseFault) (constraint : String) : Prop :=
  exists e, f = .server e ∧ e.state = Database.uniqueViolation ∧ e.constraint = some constraint

namespace Database

def insertUserCommand (u : NewUser) : Command :=
  .execute .insertUser [.text u.username, .text u.email, .text u.passwordHash]

def insertWalletCommand (id : UserId) : Command :=
  .execute .insertWallet [.id id]

def registrationCommands (u : NewUser) (id : UserId) : List Command :=
  [.begin, insertUserCommand u, insertWalletCommand id, .commit]

/-!
## How it goes
-/

inductive Registering (u : NewUser) : List Attempt -> Except LedgerError UserId -> Prop where
  | unbegun {d : Delivery} {f : DatabaseFault} :
      d.outcome = .error f -> Registering u [⟨.begin, d⟩] (.error (.database f))
  | refused {d₁ d₂ : Delivery} {r : Option Row} {f : DatabaseFault} :
      d₁.outcome = .ok r -> d₂.outcome = .error f ->
      Registering u [⟨.begin, d₁⟩, ⟨insertUserCommand u, d₂⟩] (.error (registrationError u f))
  | unnamed {d₁ d₂ : Delivery} {r r' : Option Row} (f : DatabaseFault) :
      d₁.outcome = .ok r -> d₂.outcome = .ok r' -> (forall id, r' ≠ some (.id id)) ->
      Registering u [⟨.begin, d₁⟩, ⟨insertUserCommand u, d₂⟩] (.error (.database f))
  | walletless (id : UserId) {d₁ d₂ d₃ : Delivery} {r : Option Row} {f : DatabaseFault} :
      d₁.outcome = .ok r -> d₂.outcome = .ok (some (.id id)) -> d₃.outcome = .error f ->
      Registering u [⟨.begin, d₁⟩, ⟨insertUserCommand u, d₂⟩, ⟨insertWalletCommand id, d₃⟩]
        (.error (.database f))
  | uncommitted (id : UserId) {d₁ d₂ d₃ d₄ : Delivery} {r r' : Option Row} {f : DatabaseFault} :
      d₁.outcome = .ok r -> d₂.outcome = .ok (some (.id id)) -> d₃.outcome = .ok r' ->
      d₄.outcome = .error f ->
      Registering u [⟨.begin, d₁⟩, ⟨insertUserCommand u, d₂⟩, ⟨insertWalletCommand id, d₃⟩,
        ⟨.commit, d₄⟩] (.error (.database f))
  | committed (id : UserId) {d₁ d₂ d₃ d₄ : Delivery} {r r' r'' : Option Row} :
      d₁.outcome = .ok r -> d₂.outcome = .ok (some (.id id)) -> d₃.outcome = .ok r' ->
      d₄.outcome = .ok r'' ->
      Registering u [⟨.begin, d₁⟩, ⟨insertUserCommand u, d₂⟩, ⟨insertWalletCommand id, d₃⟩,
        ⟨.commit, d₄⟩] (.ok id)

variable {u : NewUser} {log : List Attempt} {result : Except LedgerError UserId}

theorem registering_of_insertWallet {d₁ d₂ : Delivery} {r : Option Row} {id : UserId}
    (hbegin : d₁.outcome = .ok r) (huser : d₂.outcome = .ok (some (.id id)))
    (h : (do
      let _ ← send (insertWalletCommand id) .database
      let _ ← send .commit .database
      return id : BooksM UserId).run.Course log result) :
    Registering u (⟨.begin, d₁⟩ :: ⟨insertUserCommand u, d₂⟩ :: log) result := by
  cases sends_of_course h with
  | failed hwallet =>
      exact .walletless id hbegin huser hwallet
  | answered hwallet hnext =>
      cases sends_of_course hnext with
      | failed hcommit =>
          exact .uncommitted id hbegin huser hwallet hcommit
      | answered hcommit hend =>
          cases hend
          exact .committed id hbegin huser hwallet hcommit

theorem registering_of_course (h : (register u).run.Course log result) :
    Registering u log result := by
  unfold register at h
  cases sends_of_course h with
  | failed hbegin =>
      exact .unbegun hbegin
  | answered hbegin hnext =>
      cases sends_of_course hnext with
      | failed huser =>
          exact .refused hbegin huser
      | answered huser hrest =>
          rename_i d₂ r₂ log
          cases r₂ with
          | none =>
              cases hrest
              exact .unnamed _ hbegin huser (fun id h => by cases h)
          | some row =>
              cases row with
              | id id =>
                  exact registering_of_insertWallet hbegin huser hrest
              | _ =>
                  cases hrest
                  exact .unnamed _ hbegin huser (fun id h => by cases h)

/-!
## Constraints
-/

section Violates

variable {f : DatabaseFault}

theorem violates_server {e : ServerError} {constraint : String} :
    (DatabaseFault.server e).Violates constraint <->
      e.state = uniqueViolation ∧ e.constraint = some constraint := by
  simp [DatabaseFault.Violates]

theorem not_violates_email_of_username (h : f.Violates "users_username_key") :
    ¬ f.Violates "users_email_key" := by
  intro hemail
  rcases h with ⟨e, rfl, _hstate, husername⟩
  rw [(violates_server.mp hemail).right] at husername
  simp at husername

theorem registrationError_of_username (h : f.Violates "users_username_key") :
    registrationError u f = .usernameTaken u.username := by
  rcases h with ⟨e, rfl, husername⟩
  rw [registrationError, if_pos husername]

theorem registrationError_of_email (h : f.Violates "users_email_key") :
    registrationError u f = .emailTaken u.email := by
  have husername : ¬ f.Violates "users_username_key" :=
    fun husername => not_violates_email_of_username husername h
  rcases h with ⟨e, rfl, hemail⟩
  rw [violates_server] at husername
  rw [registrationError, if_neg husername, if_pos hemail]

theorem registrationError_of_not (husername : ¬ f.Violates "users_username_key")
    (hemail : ¬ f.Violates "users_email_key") : registrationError u f = .database f := by
  cases f with
  | server e =>
      rw [violates_server] at husername hemail
      rw [registrationError, if_neg husername, if_neg hemail]
  | _ =>
      rfl

theorem registrationError_eq_usernameTaken_iff {name : String} :
    registrationError u f = .usernameTaken name <->
      name = u.username ∧ f.Violates "users_username_key" := by
  by_cases husername : f.Violates "users_username_key"
  · simp [registrationError_of_username husername, husername, eq_comm]
  · by_cases hemail : f.Violates "users_email_key"
    · simp [registrationError_of_email hemail, husername]
    · simp [registrationError_of_not husername hemail, husername]

theorem registrationError_eq_emailTaken_iff {email : String} :
    registrationError u f = .emailTaken email <->
      email = u.email ∧ f.Violates "users_email_key" := by
  by_cases hemail : f.Violates "users_email_key"
  · simp [registrationError_of_email hemail, hemail, eq_comm]
  · by_cases husername : f.Violates "users_username_key"
    · simp [registrationError_of_username husername, hemail]
    · simp [registrationError_of_not husername hemail, hemail]

end Violates

/-!
## All or nothing
-/

/-- A registration that is broken off leaves nothing behind. -/
theorem lasting_of_prefix {id : UserId} {cs : List Command}
    (h : cs <+: registrationCommands u id) :
    lasting none cs = [] ∨
      .commit ∈ cs ∧ lasting none cs = [insertUserCommand u, insertWalletCommand id] := by
  rcases List.prefix_cons_iff.mp h with rfl | ⟨afterBegin, rfl, hbegin⟩
  · exact Or.inl rfl
  · rcases List.prefix_cons_iff.mp hbegin with rfl | ⟨afterUser, rfl, huser⟩
    · exact Or.inl rfl
    · rcases List.prefix_cons_iff.mp huser with rfl | ⟨afterWallet, rfl, hwallet⟩
      · exact Or.inl rfl
      · rcases List.prefix_cons_iff.mp hwallet with rfl | ⟨afterCommit, rfl, hcommit⟩
        · exact Or.inl rfl
        · rw [List.prefix_nil.mp hcommit]
          exact Or.inr ⟨by simp, rfl⟩

section Registering

variable (h : Registering u log result)

include h

theorem Registering.tried_prefix :
    exists id, log.map Attempt.command <+: registrationCommands u id := by
  cases h with
  | unbegun | refused | unnamed =>
      refine ⟨default, ?_⟩
      simp [registrationCommands]
  | walletless id | uncommitted id | committed id =>
      refine ⟨id, ?_⟩
      simp [registrationCommands]

theorem Registering.begin_tried : Command.begin ∈ log.map Attempt.command := by
  cases h with
  | _ =>
      simp

theorem Registering.user_tried (r : Option Row) (hbegin : CameTo log .begin (.ok r)) :
    insertUserCommand u ∈ log.map Attempt.command := by
  cases h with
  | unbegun hfault =>
      simp [hfault] at hbegin
  | _ =>
      simp

theorem Registering.wallet_tried (id : UserId)
    (huser : CameTo log (insertUserCommand u) (.ok (some (.id id)))) :
    insertWalletCommand id ∈ log.map Attempt.command := by
  cases h with
  | unbegun =>
      simp [insertUserCommand] at huser
  | refused _hbegin hfault =>
      simp [insertUserCommand, hfault] at huser
  | unnamed _ _hbegin hrow hnone =>
      refine absurd ?_ (hnone id)
      simpa [insertUserCommand, hrow] using huser
  | walletless id' _hbegin hid | uncommitted id' _hbegin hid | committed id' _hbegin hid =>
      have heq : id' = id := by
        simpa [insertUserCommand, insertWalletCommand, hid] using huser
      simp [heq]

theorem Registering.commit_tried (id : UserId) (r : Option Row)
    (hwallet : CameTo log (insertWalletCommand id) (.ok r)) :
    Command.commit ∈ log.map Attempt.command := by
  cases h with
  | unbegun | refused | unnamed =>
      simp [insertUserCommand, insertWalletCommand] at hwallet
  | walletless id' _hbegin _huser hfault =>
      simp [insertUserCommand, insertWalletCommand, hfault] at hwallet
  | uncommitted | committed =>
      simp

theorem Registering.sent_prefix : exists id, sentIn log <+: registrationCommands u id := by
  cases h with
  | unbegun =>
      exact ⟨default, sentIn_singleton_isPrefix⟩
  | refused hbegin | unnamed _ hbegin =>
      exact ⟨default, sentIn_cons_isPrefix hbegin sentIn_singleton_isPrefix⟩
  | walletless id hbegin huser =>
      exact ⟨id, sentIn_cons_isPrefix hbegin (sentIn_cons_isPrefix huser sentIn_singleton_isPrefix)⟩
  | uncommitted id hbegin huser hwallet | committed id hbegin huser hwallet =>
      exact ⟨id, sentIn_cons_isPrefix hbegin
        (sentIn_cons_isPrefix huser (sentIn_cons_isPrefix hwallet sentIn_singleton_isPrefix))⟩

theorem Registering.wallet_id (id : UserId)
    (hwallet : insertWalletCommand id ∈ log.map Attempt.command) :
    CameTo log (insertUserCommand u) (.ok (some (.id id))) := by
  cases h with
  | unbegun | refused | unnamed =>
      simp [insertWalletCommand, insertUserCommand] at hwallet
  | walletless id' hbegin huser | uncommitted id' hbegin huser | committed id' hbegin huser =>
      have hid : id = id' := by
        simpa [insertWalletCommand, insertUserCommand] using hwallet
      simp [hid, huser]

theorem Registering.commit_last (hcommit : Command.commit ∈ log.map Attempt.command) :
    exists id, log.map Attempt.command = registrationCommands u id ∧
      (exists r, CameTo log .begin (.ok r)) ∧
      CameTo log (insertUserCommand u) (.ok (some (.id id))) ∧
      exists r, CameTo log (insertWalletCommand id) (.ok r) := by
  cases h with
  | unbegun | refused | unnamed | walletless =>
      simp [insertWalletCommand, insertUserCommand] at hcommit
  | uncommitted id hbegin huser hwallet | committed id hbegin huser hwallet =>
      exact ⟨id, rfl, ⟨_, _, by simp, hbegin⟩, ⟨_, by simp, huser⟩, ⟨_, _, by simp, hwallet⟩⟩

theorem Registering.ok_iff (id : UserId) : result = .ok id <->
    CameTo log (insertUserCommand u) (.ok (some (.id id))) ∧
      exists r, CameTo log .commit (.ok r) := by
  cases h with
  | unbegun | refused | unnamed | walletless =>
      simp [insertUserCommand, insertWalletCommand]
  | uncommitted id' hbegin huser hwallet hcommit =>
      simp [insertUserCommand, insertWalletCommand, hcommit]
  | committed id' hbegin huser hwallet hcommit =>
      simp [insertUserCommand, insertWalletCommand, huser, hcommit]

theorem Registering.usernameTaken_iff (name : String) : result = .error (.usernameTaken name) <->
    name = u.username ∧ exists f, f.Violates "users_username_key" ∧
      CameTo log (insertUserCommand u) (.error f) := by
  cases h with
  | unbegun =>
      simp [insertUserCommand]
  | refused hbegin huser =>
      simp [insertUserCommand, huser, registrationError_eq_usernameTaken_iff]
  | unnamed _ hbegin huser | walletless _ hbegin huser
  | uncommitted _ hbegin huser | committed _ hbegin huser =>
      simp [insertUserCommand, insertWalletCommand, huser]

theorem Registering.emailTaken_iff (email : String) : result = .error (.emailTaken email) <->
    email = u.email ∧ exists f, f.Violates "users_email_key" ∧
      CameTo log (insertUserCommand u) (.error f) := by
  cases h with
  | unbegun =>
      simp [insertUserCommand]
  | refused hbegin huser =>
      simp [insertUserCommand, huser, registrationError_eq_emailTaken_iff]
  | unnamed _ hbegin huser | walletless _ hbegin huser
  | uncommitted _ hbegin huser | committed _ hbegin huser =>
      simp [insertUserCommand, insertWalletCommand, huser]

theorem Registering.fault (c : Command) (f : DatabaseFault) (hfault : CameTo log c (.error f)) :
    result = .error (.database f) ∨
      c = insertUserCommand u ∧
        (f.Violates "users_username_key" ∨ f.Violates "users_email_key") := by
  cases h with
  | unbegun hbegin =>
      rw [cameTo_singleton, hbegin] at hfault
      rw [Except.error.inj hfault.right]
      exact Or.inl rfl
  | refused hbegin huser =>
      rw [cameTo_error_cons_of_outcome hbegin, cameTo_singleton, huser] at hfault
      rcases hfault with ⟨rfl, hf⟩
      rw [Except.error.inj hf]
      by_cases husername : f.Violates "users_username_key"
      · exact Or.inr ⟨rfl, Or.inl husername⟩
      · by_cases hemail : f.Violates "users_email_key"
        · exact Or.inr ⟨rfl, Or.inr hemail⟩
        · exact Or.inl (congrArg Except.error (registrationError_of_not husername hemail))
  | walletless id hbegin huser hwallet =>
      rw [cameTo_error_cons_of_outcome hbegin, cameTo_error_cons_of_outcome huser, cameTo_singleton,
        hwallet] at hfault
      rw [Except.error.inj hfault.right]
      exact Or.inl rfl
  | uncommitted id hbegin huser hwallet hcommit =>
      rw [cameTo_error_cons_of_outcome hbegin, cameTo_error_cons_of_outcome huser,
        cameTo_error_cons_of_outcome hwallet, cameTo_singleton, hcommit] at hfault
      rw [Except.error.inj hfault.right]
      exact Or.inl rfl
  | unnamed _ hbegin huser =>
      simp [hbegin, huser] at hfault
  | committed id hbegin huser hwallet hcommit =>
      simp [hbegin, huser, hwallet, hcommit] at hfault

theorem Registering.cases (e : LedgerError) (he : result = .error e) :
    (exists f, e = .database f) ∨ e = .usernameTaken u.username ∨ e = .emailTaken u.email := by
  cases h with
  | unbegun | unnamed | walletless | uncommitted =>
      cases he
      exact Or.inl ⟨_, rfl⟩
  | refused =>
      rename_i d₁ d₂ r f hbegin huser
      cases he
      by_cases husername : f.Violates "users_username_key"
      · exact Or.inr (Or.inl (registrationError_of_username husername))
      · by_cases hemail : f.Violates "users_email_key"
        · exact Or.inr (Or.inr (registrationError_of_email hemail))
        · exact Or.inl ⟨f, registrationError_of_not husername hemail⟩
  | committed =>
      cases he

end Registering

/-- What is done for a registration and reported of it, whatever the server does. -/
structure AllOrNothing (u : NewUser) (log : List Attempt)
    (result : Except LedgerError UserId) : Prop where
  /-- Each command is sent once at most, in order, and what could not be sent is not tried again. -/
  sent_prefix : exists id, sentIn log <+: registrationCommands u id
  tried_prefix : exists id, log.map Attempt.command <+: registrationCommands u id
  /-- It is begun, and each success leads to the next command. -/
  begin_tried : Command.begin ∈ log.map Attempt.command
  user_tried (r : Option Row) : CameTo log .begin (.ok r) ->
    insertUserCommand u ∈ log.map Attempt.command
  wallet_tried (id : UserId) : CameTo log (insertUserCommand u) (.ok (some (.id id))) ->
    insertWalletCommand id ∈ log.map Attempt.command
  commit_tried (id : UserId) (r : Option Row) : CameTo log (insertWalletCommand id) (.ok r) ->
    Command.commit ∈ log.map Attempt.command
  /-- The wallet is entered under the id that the entry of the user has given. -/
  wallet_id (id : UserId) : insertWalletCommand id ∈ log.map Attempt.command ->
    CameTo log (insertUserCommand u) (.ok (some (.id id)))
  /-- The transaction is committed only when it has begun and both entries have been made. -/
  commit_last : Command.commit ∈ log.map Attempt.command ->
    exists id, log.map Attempt.command = registrationCommands u id ∧
      (exists r, CameTo log .begin (.ok r)) ∧
      CameTo log (insertUserCommand u) (.ok (some (.id id))) ∧
      exists r, CameTo log (insertWalletCommand id) (.ok r)
  /-- Without that nothing lasts. -/
  lasting_eq : lasting none (sentIn log) = [] ∨
    .commit ∈ sentIn log ∧
      exists id, lasting none (sentIn log) = [insertUserCommand u, insertWalletCommand id]
  ok_iff (id : UserId) : result = .ok id <->
    CameTo log (insertUserCommand u) (.ok (some (.id id))) ∧ exists r, CameTo log .commit (.ok r)
  usernameTaken_iff (name : String) : result = .error (.usernameTaken name) <->
    name = u.username ∧ exists f, f.Violates "users_username_key" ∧
      CameTo log (insertUserCommand u) (.error f)
  emailTaken_iff (email : String) : result = .error (.emailTaken email) <->
    email = u.email ∧ exists f, f.Violates "users_email_key" ∧
      CameTo log (insertUserCommand u) (.error f)
  /-- Any other fault is reported as it is, also where the entry of the wallet violates a
  constraint. -/
  fault (c : Command) (f : DatabaseFault) : CameTo log c (.error f) ->
    result = .error (.database f) ∨
      c = insertUserCommand u ∧ (f.Violates "users_username_key" ∨ f.Violates "users_email_key")
  /-- There is no other error. -/
  cases (e : LedgerError) : result = .error e ->
    (exists f, e = .database f) ∨ e = .usernameTaken u.username ∨ e = .emailTaken u.email

theorem Registering.allOrNothing (h : Registering u log result) : AllOrNothing u log result where
  sent_prefix := h.sent_prefix
  tried_prefix := h.tried_prefix
  begin_tried := h.begin_tried
  user_tried := h.user_tried
  wallet_tried := h.wallet_tried
  commit_tried := h.commit_tried
  wallet_id := h.wallet_id
  commit_last := h.commit_last
  lasting_eq := by
    rcases h.sent_prefix with ⟨id, hsent⟩
    rcases lasting_of_prefix hsent with hnothing | ⟨hcommit, hall⟩
    · exact Or.inl hnothing
    · exact Or.inr ⟨hcommit, id, hall⟩
  ok_iff := h.ok_iff
  usernameTaken_iff := h.usernameTaken_iff
  emailTaken_iff := h.emailTaken_iff
  fault := h.fault
  cases := h.cases

/-- Whatever the server does, a registration enters the user and the wallet or nothing, and it
gives out the id exactly when both have been committed. -/
theorem register_allOrNothing {σ : Type} (deliver : σ -> Command -> Delivery × σ) (s : σ)
    (u : NewUser) :
    let course := (register u).run.transcript deliver s
    AllOrNothing u course.2 course.1 :=
  (registering_of_course ((register u).run.course_transcript deliver s)).allOrNothing

end Database

end CurrencyWallet
