import CurrencyWallet.Proofs.Service.Exchange
import CurrencyWallet.Proofs.Service.ReadThrough

/-!
# A desk in use

Between two exchanges time passes, the provider changes, the books change, and others ask for
quotes, for the same pair or for another. What becomes of the cache is told by the log of all
questions that have been asked at the desk. A quote that has been fetched is the last one of its
kind until it expires, whatever is asked meanwhile, and no question prolongs its life.
-/

namespace CurrencyWallet

/-- What may happen at a desk. Whoever asks for a quote may be in a hurry. -/
inductive Interlude where
  | pause (milliseconds : Nat)
  | provider (p : Provider)
  /-- Something is booked, or somebody registers. -/
  | books (l : Ledger)
  | exchange (timeout : Option Nat) (user : UserId) (source target : String) (amount : Decimal)
  | rate (timeout : Option Nat) (source target : String)
  | table (timeout : Option Nat)

/-- What the cache is asked, and how long there is time for it. -/
def Interlude.question? : Interlude -> Option (Option Nat × QuoteKey)
  | exchange timeout _ source target amount =>
      (Desk.allowedPair source target amount).toOption.map (fun pair => (timeout, .rate pair))
  | rate timeout source target =>
      (Desk.parsePair source target).toOption.map (fun pair => (timeout, .rate pair))
  | table timeout => some (timeout, .table)
  | _ => none

namespace Desk

def deadline (d : Desk) (timeout : Option Nat) : Option Nat :=
  timeout.map (d.quotes.clock + ·)

def pass (d : Desk) : Interlude -> Desk
  | .pause milliseconds => d.advance milliseconds
  | .provider p => d.setProvider p
  | .books l => { d with ledger := l }
  | .exchange timeout user source target amount =>
      (d.exchange (d.deadline timeout) user source target amount).2
  | .rate timeout source target => (d.getRate (d.deadline timeout) source target).2
  | .table timeout => (d.getTable (d.deadline timeout)).2

def after (d : Desk) (is : List Interlude) : Desk :=
  is.foldl pass d

def asked (d : Desk) (i : Interlude) : List Lookup :=
  match i.question? with
  | some (timeout, k) => [d.quotes.lookUpBy (d.deadline timeout) k]
  | none => []

def lookups (d : Desk) : List Interlude -> List Lookup
  | [] => []
  | i :: is => d.asked i ++ (d.pass i).lookups is

section Log

variable (d : Desk)

theorem asked_exchange {source target : String} {amount : Decimal} {pair : CurrencyPair}
    (h : Allowed source target amount pair) (timeout : Option Nat) (user : UserId) :
    d.asked (.exchange timeout user source target amount) =
      [d.quotes.lookUpBy (d.deadline timeout) (.rate pair)] := by
  rw [asked, Interlude.question?, allowedPair_eq_ok_iff.mpr h]
  rfl

theorem after_snoc (is : List Interlude) (i : Interlude) :
    d.after (is ++ [i]) = (d.after is).pass i := by
  rw [after, List.foldl_append]
  rfl

theorem lookups_snoc (is : List Interlude) (i : Interlude) :
    d.lookups (is ++ [i]) = d.lookups is ++ (d.after is).asked i := by
  induction is generalizing d with
  | nil =>
      exact List.append_nil _
  | cons i' is ih =>
      change d.asked i' ++ (d.pass i').lookups (is ++ [i]) = _
      rw [ih, ← List.append_assoc]
      rfl

end Log

/-!
## What the quotes see of it
-/

/-- What an interlude is to the quotes: one question, or nothing that concerns the cache. -/
inductive Passed (d : Desk) : List Lookup -> Quotes -> Prop where
  | quiet {q : Quotes} :
      q.cache = d.quotes.cache -> d.quotes.clock ≤ q.clock -> Passed d [] q
  | asked (timeout : Option Nat) (k : QuoteKey) :
      Passed d [d.quotes.lookUpBy (d.deadline timeout) k]
        (d.quotes.ask (d.deadline timeout) k).2

section Pass

variable (d : Desk)

theorem pass_cases (i : Interlude) : d.Passed (d.asked i) (d.pass i).quotes := by
  cases i with
  | pause milliseconds =>
      exact .quiet rfl (Nat.le_add_right _ _)
  | provider p =>
      exact .quiet rfl (Nat.le_refl _)
  | books l =>
      exact .quiet rfl (Nat.le_refl _)
  | exchange timeout user source target amount =>
      cases hallowed : allowedPair source target amount with
      | error e =>
          rw [asked, Interlude.question?, pass, exchange, hallowed]
          exact .quiet rfl (Nat.le_refl _)
      | ok pair =>
          rw [allowedPair_eq_ok_iff] at hallowed
          rw [asked_exchange d hallowed, pass, quotes_exchange_of_allowed hallowed]
          exact .asked timeout (.rate pair)
  | rate timeout source target =>
      rw [asked, Interlude.question?, pass, getRate]
      cases parsePair source target with
      | error e =>
          exact .quiet rfl (Nat.le_refl _)
      | ok pair =>
          exact .asked timeout (.rate pair)
  | table timeout =>
      exact .asked timeout .table

theorem clock_le_pass (i : Interlude) : d.quotes.clock ≤ (d.pass i).quotes.clock := by
  have hpassed := d.pass_cases i
  generalize d.asked i = more at hpassed
  generalize (d.pass i).quotes = q at hpassed ⊢
  cases hpassed with
  | quiet _hcache hclock =>
      exact hclock
  | asked timeout k =>
      exact d.quotes.clock_le_ask timeout k

theorem clock_le_after (is : List Interlude) : d.quotes.clock ≤ (d.after is).quotes.clock := by
  induction is generalizing d with
  | nil =>
      exact Nat.le_refl _
  | cons i is ih =>
      exact Nat.le_trans (d.clock_le_pass i) (ih (d.pass i))

end Pass

/-!
## What the log tells
-/

section Remembers

variable {policy : CachePolicy} {seen : List Lookup} {d : Desk}

theorem remembers_pass (h : Quotes.Remembers policy seen d.quotes) (i : Interlude) :
    Quotes.Remembers policy (seen ++ d.asked i) (d.pass i).quotes := by
  have hpassed := d.pass_cases i
  generalize d.asked i = more at hpassed ⊢
  generalize (d.pass i).quotes = q at hpassed ⊢
  cases hpassed with
  | quiet hcache hclock =>
      rw [List.append_nil]
      exact h.of_cache_eq hcache hclock
  | asked timeout k =>
      exact h.askBy timeout k

theorem remembers_after (h : Quotes.Remembers policy seen d.quotes) (is : List Interlude) :
    Quotes.Remembers policy (seen ++ d.lookups is) (d.after is).quotes := by
  induction is generalizing d seen with
  | nil =>
      rw [lookups, List.append_nil]
      exact h
  | cons i is ih =>
      rw [lookups, ← List.append_assoc]
      exact ih (remembers_pass h i)

theorem remembers_lookups (ledger : Ledger) (policy : CachePolicy) (provider : Provider)
    (is : List Interlude) :
    Quotes.Remembers policy ((start ledger policy provider).lookups is)
      ((start ledger policy provider).after is).quotes := by
  have hstart : Quotes.Remembers policy [] (start ledger policy provider).quotes :=
    Quotes.remembers_start policy provider
  exact remembers_after hstart is

variable {k : QuoteKey} {f : Lookup}

/-- While the last quote is fresh nothing is fetched that could take its place. -/
theorem lastWith_pass (h : Quotes.Remembers policy seen d.quotes)
    (hlast : LastWith (Lookup.Fetched k) seen f) (i : Interlude)
    (hfresh : (d.pass i).quotes.clock < f.answeredAt + policy.ttl) :
    LastWith (Lookup.Fetched k) (seen ++ d.asked i) f := by
  have hnow : d.quotes.clock < f.answeredAt + policy.ttl :=
    Nat.lt_of_le_of_lt (d.clock_le_pass i) hfresh
  have hpassed := d.pass_cases i
  generalize d.asked i = more at hpassed ⊢
  generalize (d.pass i).quotes = q at hpassed
  cases hpassed with
  | quiet _hcache _hclock =>
      rw [List.append_nil]
      exact hlast
  | asked timeout k' =>
      apply (lastWith_snoc_of_not ?_).mpr hlast
      intro hfetched
      rcases (h.exists_answer?_iff k).mpr ⟨f, hlast.mem.left, hlast.mem.right, hnow⟩ with ⟨v, hv⟩
      rw [Quotes.answer?_eq_none_of_fetched hfetched] at hv
      cases hv

theorem lastWith_after (h : Quotes.Remembers policy seen d.quotes)
    (hlast : LastWith (Lookup.Fetched k) seen f) (is : List Interlude)
    (hfresh : (d.after is).quotes.clock < f.answeredAt + policy.ttl) :
    LastWith (Lookup.Fetched k) (seen ++ d.lookups is) f := by
  induction is generalizing d seen with
  | nil =>
      rw [lookups, List.append_nil]
      exact hlast
  | cons i is ih =>
      have hpass : (d.pass i).quotes.clock < f.answeredAt + policy.ttl :=
        Nat.lt_of_le_of_lt ((d.pass i).clock_le_after is) hfresh
      rw [lookups, ← List.append_assoc]
      exact ih (remembers_pass h i) (lastWith_pass h hlast i hpass) hfresh

theorem answer?_after_of_fresh (h : Quotes.Remembers policy seen d.quotes)
    (hlast : LastWith (Lookup.Fetched k) seen f) {v : Quote} (hv : f.answer = .ok v)
    (is : List Interlude) (hfresh : (d.after is).quotes.clock < f.answeredAt + policy.ttl) :
    (d.after is).quotes.cache.answer? (d.after is).quotes.clock k = some v := by
  apply ((remembers_after h is).answer?_iff k v _ (Nat.le_refl _)).mpr
  exact ⟨f, lastWith_after h hlast is hfresh, hv, hfresh⟩

theorem answer?_after_of_stale (h : Quotes.Remembers policy seen d.quotes) (is : List Interlude)
    (hseen : forall g, g ∈ seen -> g.Fetched k ->
      g.answeredAt + policy.ttl ≤ (d.after is).quotes.clock)
    (hmeanwhile : forall g, g ∈ d.lookups is -> g.Fetched k ->
      g.answeredAt + policy.ttl ≤ (d.after is).quotes.clock) :
    (d.after is).quotes.cache.answer? (d.after is).quotes.clock k = none := by
  rw [Option.eq_none_iff_forall_ne_some]
  intro v hv
  rcases ((remembers_after h is).exists_answer?_iff k).mp ⟨v, hv⟩ with ⟨g, hg, hfetched, hfresh⟩
  rcases List.mem_append.mp hg with hg | hg
  · exact absurd hfresh (Nat.not_lt.mpr (hseen g hg hfetched))
  · exact absurd hfresh (Nat.not_lt.mpr (hmeanwhile g hg hfetched))

end Remembers

end Desk

end CurrencyWallet
