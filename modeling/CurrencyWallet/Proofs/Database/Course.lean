import CurrencyWallet.Database.Books

/-!
# Courses of conversations

A command may find no connection, and then it is never sent. One that is sent may be answered in
any way, or its connection breaks and nothing but the fault is heard of it. A course of a
conversation is the list of all attempts with what became of each. Every server makes one, so what
holds of every course holds whatever the server does.
-/

namespace CurrencyWallet

inductive Delivery where
  /-- There is no connection for it. -/
  | unsent (fault : DatabaseFault)
  | sent (answer : Answer)
deriving DecidableEq

namespace Delivery

def answer : Delivery -> Answer
  | unsent f => .fault f
  | sent a => a

/-- What has come of the command: a row, no row, or a fault. -/
def outcome (d : Delivery) : Except DatabaseFault (Option Row) :=
  match d.answer with
  | .row r => .ok (some r)
  | .done => .ok none
  | .fault f => .error f

end Delivery

structure Attempt where
  command : Command
  delivery : Delivery
deriving DecidableEq

def Attempt.sent? (a : Attempt) : Option Command :=
  match a.delivery with
  | .unsent _ => none
  | .sent _ => some a.command

def sentIn (log : List Attempt) : List Command :=
  log.filterMap Attempt.sent?

section Sent

variable {c : Command} {d : Delivery} {log : List Attempt} {cs : List Command}

theorem sentIn_cons_of_outcome {o : Option Row} (hd : d.outcome = .ok o) :
    sentIn (⟨c, d⟩ :: log) = c :: sentIn log := by
  cases d with
  | unsent f =>
      cases hd
  | sent a =>
      rfl

theorem sentIn_cons_isPrefix {o : Option Row} (hd : d.outcome = .ok o) (h : sentIn log <+: cs) :
    sentIn (⟨c, d⟩ :: log) <+: c :: cs := by
  rw [sentIn_cons_of_outcome hd]
  exact List.prefix_cons_inj c |>.mpr h

theorem sentIn_singleton_isPrefix : sentIn [⟨c, d⟩] <+: c :: cs := by
  cases d with
  | unsent f =>
      exact List.nil_prefix
  | sent a =>
      exact List.prefix_append [c] cs

theorem mem_sentIn_singleton_or :
    c ∈ sentIn [⟨c, d⟩] ∨ exists f, [(⟨c, d⟩ : Attempt)] = [⟨c, .unsent f⟩] := by
  cases d with
  | unsent f =>
      exact Or.inr ⟨f, rfl⟩
  | sent a =>
      exact Or.inl (List.mem_singleton_self c)

end Sent

def CameTo (log : List Attempt) (c : Command) (o : Except DatabaseFault (Option Row)) : Prop :=
  exists d, ⟨c, d⟩ ∈ log ∧ d.outcome = o

@[simp] theorem cameTo_nil {c : Command} {o : Except DatabaseFault (Option Row)} :
    ¬ CameTo [] c o := by
  intro h
  rcases h with ⟨d, hmem, _ho⟩
  cases hmem

@[simp] theorem cameTo_cons {c c' : Command} {d : Delivery} {log : List Attempt}
    {o : Except DatabaseFault (Option Row)} :
    CameTo (⟨c', d⟩ :: log) c o <-> (c = c' ∧ d.outcome = o) ∨ CameTo log c o := by
  constructor
  · intro h
    rcases h with ⟨d', hmem, ho⟩
    rcases List.mem_cons.mp hmem with hhead | htail
    · cases hhead
      exact Or.inl ⟨rfl, ho⟩
    · exact Or.inr ⟨d', htail, ho⟩
  · intro h
    rcases h with ⟨rfl, ho⟩ | ⟨d', hmem, ho⟩
    · exact ⟨d, List.mem_cons_self, ho⟩
    · exact ⟨d', List.mem_cons_of_mem _ hmem, ho⟩

theorem cameTo_singleton {c c' : Command} {d : Delivery}
    {o : Except DatabaseFault (Option Row)} :
    CameTo [⟨c', d⟩] c o <-> c = c' ∧ d.outcome = o := by
  rw [cameTo_cons, or_iff_left cameTo_nil]

theorem cameTo_error_cons_of_outcome {c c' : Command} {d : Delivery} {log : List Attempt}
    {r : Option Row} {f : DatabaseFault} (hd : d.outcome = .ok r) :
    CameTo (⟨c', d⟩ :: log) c (.error f) <-> CameTo log c (.error f) := by
  rw [cameTo_cons, hd]
  simp

namespace Conversation

variable {α β γ σ : Type}

theorem bind_finished (x : Conversation α) : x.bind finished = x := by
  induction x with
  | finished a =>
      rfl
  | ask c next ih =>
      exact congrArg (ask c) (funext ih)

theorem bind_bind (x : Conversation α) (f : α -> Conversation β) (g : β -> Conversation γ) :
    (x.bind f).bind g = x.bind (fun a => (f a).bind g) := by
  induction x with
  | finished a =>
      rfl
  | ask c next ih =>
      exact congrArg (ask c) (funext ih)

instance : LawfulMonad Conversation :=
  .mk' _ bind_finished (fun _a _f => rfl) bind_bind

def recording (deliver : σ -> Command -> Delivery × σ) (s : σ × List Attempt) (c : Command) :
    Answer × (σ × List Attempt) :=
  ((deliver s.1 c).1.answer, (deliver s.1 c).2, s.2 ++ [⟨c, (deliver s.1 c).1⟩])

def transcript (deliver : σ -> Command -> Delivery × σ) (x : Conversation α) (s : σ) :
    α × List Attempt :=
  let r := x.run (recording deliver) (s, [])
  (r.1, r.2.2)

/-- The conversation can go this way and end like this. -/
inductive Course : Conversation α -> List Attempt -> α -> Prop where
  | finished (a : α) : Course (finished a) [] a
  | ask (c : Command) {next : Answer -> Conversation α} (d : Delivery) {log : List Attempt}
      {a : α} :
      Course (next d.answer) log a -> Course (ask c next) (⟨c, d⟩ :: log) a

section Transcript

variable (deliver : σ -> Command -> Delivery × σ)

theorem run_recording (x : Conversation α) (s : σ) (log : List Attempt) :
    exists more, (x.run (recording deliver) (s, log)).2.2 = log ++ more ∧
      x.Course more (x.run (recording deliver) (s, log)).1 := by
  induction x generalizing s log with
  | finished a =>
      exact ⟨[], (List.append_nil log).symm, .finished a⟩
  | ask c next ih =>
      rcases ih (deliver s c).1.answer (deliver s c).2 (log ++ [⟨c, (deliver s c).1⟩]) with
        ⟨more, hlog, hcourse⟩
      refine ⟨⟨c, (deliver s c).1⟩ :: more, ?_, .ask c _ hcourse⟩
      rw [← List.append_cons] at hlog
      exact hlog

/-- Whatever the server does is a course of the conversation. -/
theorem course_transcript (x : Conversation α) (s : σ) :
    x.Course (x.transcript deliver s).2 (x.transcript deliver s).1 := by
  rcases run_recording deliver x s [] with ⟨more, hlog, hcourse⟩
  rw [List.nil_append] at hlog
  rw [← hlog] at hcourse
  exact hcourse

end Transcript

end Conversation

namespace Database

variable {α : Type} {log : List Attempt} {result : Except LedgerError α}

inductive Sends (c : Command) (onFault : DatabaseFault -> LedgerError)
    (next : Option Row -> BooksM α) : List Attempt -> Except LedgerError α -> Prop where
  | failed {d : Delivery} {f : DatabaseFault} :
      d.outcome = .error f -> Sends c onFault next [⟨c, d⟩] (.error (onFault f))
  | answered {d : Delivery} {r : Option Row} {log : List Attempt} {result : Except LedgerError α} :
      d.outcome = .ok r -> (next r).run.Course log result ->
      Sends c onFault next (⟨c, d⟩ :: log) result

theorem sends_of_course {c : Command} {onFault : DatabaseFault -> LedgerError}
    {next : Option Row -> BooksM α} (h : (send c onFault >>= next).run.Course log result) :
    Sends c onFault next log result := by
  change Conversation.Course (.ask c _) log result at h
  cases h with
  | ask _ d h =>
      cases hanswer : d.answer with
      | row r =>
          rw [hanswer] at h
          exact .answered (by rw [Delivery.outcome, hanswer]) h
      | done =>
          rw [hanswer] at h
          exact .answered (by rw [Delivery.outcome, hanswer]) h
      | fault f =>
          rw [hanswer] at h
          cases h
          exact .failed (by rw [Delivery.outcome, hanswer])

end Database

end CurrencyWallet
