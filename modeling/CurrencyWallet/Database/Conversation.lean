import CurrencyWallet.Database.Statement

/-!
# Conversations with a database

A conversation sends one command at a time and goes on as the answer demands. It is a
value: what the database does is not part of it, so it can be carried on with any
server, be it one that keeps books or one that reads its answers from a list.
-/

namespace CurrencyWallet

/-- A conversation that ends with a result. -/
inductive Conversation (α : Type) where
  | finished (result : α)
  | ask (c : Command) (next : Answer → Conversation α)

namespace Conversation

variable {α β σ : Type}

def bind (x : Conversation α) (f : α → Conversation β) : Conversation β :=
  match x with
  | finished a => f a
  | ask c next => ask c (fun r => (next r).bind f)

instance : Monad Conversation where
  pure := finished
  bind := bind

/-- Carries on a conversation with a server that has a state. -/
def run (serve : σ → Command → Answer × σ) (x : Conversation α) (s : σ) : α × σ :=
  match x with
  | finished a => (a, s)
  | ask c next => (next (serve s c).1).run serve (serve s c).2

end Conversation

/-- A server that reads the answers to statements from a list and remembers what it was
sent. -/
structure Script where
  answers : List Answer
  /-- The commands received, the latest first. -/
  received : List Command

/-- Transactions begin and end without trouble, and each statement takes one answer from
the list. When the list is used up there is never a row. -/
def Script.serve (s : Script) (c : Command) : Answer × Script :=
  let received := c :: s.received
  match c, s.answers with
  | .execute _ _, r :: rest => (r, ⟨rest, received⟩)
  | _, answers => (.done, ⟨answers, received⟩)

end CurrencyWallet
