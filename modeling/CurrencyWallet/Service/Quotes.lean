import CurrencyWallet.Rates.Cache
import CurrencyWallet.Rates.Provider
import CurrencyWallet.Service.Error

/-!
# Quotes

Rates are looked up in the cache first. Only when there is no fresh quote is
the provider asked, once, and what it answers is stored. A failure is passed on
and stores nothing.

Time passes only while the provider is thinking. Whoever asks may set a
deadline; when the answer would come later than that, the question is given up at the
deadline and has no effect.
-/

namespace CurrencyWallet

/-- How often the provider has answered, with rates or with failures. -/
structure Contacts where
  rate : Nat
  table : Nat
deriving DecidableEq

/-- The cache in front of the provider, and the time. -/
structure Quotes where
  cache : QuoteCache
  /-- What the provider would answer now. -/
  provider : Provider
  /-- The time in milliseconds. -/
  clock : Nat
  contacts : Contacts

namespace Quotes

/-- Quotes with an empty cache at the beginning of time. -/
def start (policy : CachePolicy) (provider : Provider) : Quotes :=
  ⟨.empty policy, provider, 0, ⟨0, 0⟩⟩

def advance (q : Quotes) (milliseconds : Nat) : Quotes :=
  { q with clock := q.clock + milliseconds }

/-- Nobody waits longer than thirty years, of 365 days each. -/
def longestWait : Nat :=
  30 * 365 * 86400 * 1000

/-- The time at which the provider answers, unless that is after the
deadline. -/
def answerTime (q : Quotes) (deadline : Option Nat) : Except ServiceError Nat :=
  let time := q.clock + min q.provider.delay longestWait
  match deadline with
  | none => .ok time
  | some limit => if time ≤ limit then .ok time else .error .deadlineExceeded

def giveUp (q : Quotes) (deadline : Option Nat) : Quotes :=
  { q with clock := deadline.getD q.clock }

def fetchRate (q : Quotes) (deadline : Option Nat) (pair : CurrencyPair) :
    Except ServiceError String × Quotes :=
  match q.answerTime deadline with
  | .error e => (.error e, q.giveUp deadline)
  | .ok time =>
      let q := { q with clock := time, contacts := { q.contacts with rate := q.contacts.rate + 1 } }
      match q.provider.rate pair with
      | .ok rate => (.ok rate, { q with cache := q.cache.insertRate time pair rate })
      | .error e => (.error (.rate e), q)

def fetchTable (q : Quotes) (deadline : Option Nat) : Except ServiceError RateTable × Quotes :=
  match q.answerTime deadline with
  | .error e => (.error e, q.giveUp deadline)
  | .ok time =>
      let q :=
        { q with clock := time, contacts := { q.contacts with table := q.contacts.table + 1 } }
      match q.provider.table with
      | .ok table => (.ok table, { q with cache := q.cache.insertTable time table })
      | .error e => (.error (.rate e), q)

/-- The quoted rate of a pair, from the cache or else from the provider. -/
def getRate (q : Quotes) (deadline : Option Nat) (pair : CurrencyPair) :
    Except ServiceError String × Quotes :=
  match q.cache.getRate q.clock pair with
  | (some rate, cache) => (.ok rate, { q with cache := cache })
  | (none, cache) => { q with cache := cache }.fetchRate deadline pair

/-- The quoted table, from the cache or else from the provider. -/
def getTable (q : Quotes) (deadline : Option Nat) : Except ServiceError RateTable × Quotes :=
  match q.cache.getTable q.clock with
  | (some table, cache) => (.ok table, { q with cache := cache })
  | (none, cache) => { q with cache := cache }.fetchTable deadline

end Quotes

end CurrencyWallet
