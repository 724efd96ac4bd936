import CurrencyWallet.Directory
import CurrencyWallet.Rates.Quote

/-!
# The quote cache

Quotes are kept for a while after they were fetched: one rate text for each ordered
pair, and the table, all under texts as keys. A quote that was stored at time `t` is fresh
as long as the time is less than `t + ttl`; a stale one is never given out. Time is an input
of the operations and counts milliseconds.

A stale quote stays until it is looked up, until somebody evicts the stale ones, or
until something is stored while there are as many quotes as the cache is meant to hold.
Fresh quotes are never given up for lack of room.
-/

namespace CurrencyWallet

inductive CachedQuote where
  | table (table : RateTable)
  | rate (text : String)
deriving DecidableEq

/-- A quote with the time at which it ceases to be fresh. -/
structure CacheEntry where
  quote : CachedQuote
  /-- The first time at which the quote is stale. -/
  expiresAt : Nat
deriving DecidableEq

/-- A quote is fresh before it expires. -/
def CacheEntry.Fresh (e : CacheEntry) (now : Nat) : Prop :=
  now < e.expiresAt

instance (e : CacheEntry) (now : Nat) : Decidable (e.Fresh now) :=
  inferInstanceAs (Decidable (now < e.expiresAt))

structure CachePolicy where
  /-- How long a quote is fresh, in milliseconds. -/
  ttl : Nat := 300000
  /-- From how many quotes on stale ones are evicted before another is stored. -/
  maxEntries : Nat := 1024
deriving DecidableEq

structure QuoteCache where
  policy : CachePolicy
  entries : Directory String CacheEntry

/-- How many quotes there are, and how many of them are fresh and stale. -/
structure CacheStats where
  total : Nat
  valid : Nat
  expired : Nat
deriving DecidableEq

namespace QuoteCache

def tableKey : String :=
  "exchange_rates"

def pairKey (pair : CurrencyPair) : String :=
  s!"exchange_rate:{pair.source}:{pair.target}"

def empty (policy : CachePolicy) : QuoteCache :=
  ⟨policy, ∅⟩

/-- The number of quotes, stale ones included. -/
def size (c : QuoteCache) : Nat :=
  c.entries.size

/-- Removes the stale quotes. -/
def evictExpired (c : QuoteCache) (now : Nat) : QuoteCache :=
  { c with entries := c.entries.filter (fun _ e => e.Fresh now) }

def clear (c : QuoteCache) : QuoteCache :=
  empty c.policy

def remove (c : QuoteCache) (key : String) : QuoteCache :=
  { c with entries := c.entries.erase key }

/-- Looks up a key. A stale quote is removed. -/
def get (c : QuoteCache) (now : Nat) (key : String) : Option CachedQuote × QuoteCache :=
  match c.entries.get? key with
  | some e => if e.Fresh now then (some e.quote, c) else (none, c.remove key)
  | none => (none, c)

/-- Evicts the stale quotes when the cache holds as many as it is meant to. -/
def makeRoom (c : QuoteCache) (now : Nat) : QuoteCache :=
  if c.policy.maxEntries ≤ c.size then c.evictExpired now else c

def insert (c : QuoteCache) (now : Nat) (key : String) (quote : CachedQuote) : QuoteCache :=
  let c := c.makeRoom now
  { c with entries := c.entries.insert key ⟨quote, now + c.policy.ttl⟩ }

def getRate (c : QuoteCache) (now : Nat) (pair : CurrencyPair) : Option String × QuoteCache :=
  match c.get now (pairKey pair) with
  | (some (.rate text), c) => (some text, c)
  | (_, c) => (none, c)

def getTable (c : QuoteCache) (now : Nat) : Option RateTable × QuoteCache :=
  match c.get now tableKey with
  | (some (.table table), c) => (some table, c)
  | (_, c) => (none, c)

def insertRate (c : QuoteCache) (now : Nat) (pair : CurrencyPair) (rate : String) : QuoteCache :=
  c.insert now (pairKey pair) (.rate rate)

def insertTable (c : QuoteCache) (now : Nat) (table : RateTable) : QuoteCache :=
  c.insert now tableKey (.table table)

def removeRate (c : QuoteCache) (pair : CurrencyPair) : QuoteCache :=
  c.remove (pairKey pair)

def stats (c : QuoteCache) (now : Nat) : CacheStats :=
  let valid := c.entries.values.countP (fun e => e.Fresh now)
  ⟨c.size, valid, c.size - valid⟩

end QuoteCache

end CurrencyWallet
