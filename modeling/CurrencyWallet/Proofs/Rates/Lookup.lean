import CurrencyWallet.Proofs.Directory
import CurrencyWallet.Rates.Cache
import Mathlib.Data.List.Nodup

/-!
# What the cache answers

The cache is asked for the rate of a pair or for the table. It is known by what it would
answer, now and at any later time. Storing a quote decides the answers to one question, and
so do the removal of a rate and the clearing of the cache; everything else that happens to
the cache changes no answer, whether stale quotes are swept on the way or not.

No two questions share a key, and under each key there is only what answers its question.
-/

namespace CurrencyWallet

def CurrencyPair.all : List CurrencyPair :=
  Currency.all.flatMap fun source => Currency.all.map fun target => ⟨source, target⟩

theorem CurrencyPair.mem_all (pair : CurrencyPair) : pair ∈ all := by
  rcases pair with ⟨source, target⟩
  cases source <;> cases target <;> decide

inductive QuoteKey where
  | rate (pair : CurrencyPair)
  | table
deriving DecidableEq

namespace QuoteKey

def all : List QuoteKey :=
  .table :: CurrencyPair.all.map .rate

theorem mem_all (k : QuoteKey) : k ∈ all := by
  cases k with
  | rate pair =>
      exact List.mem_cons_of_mem _ (List.mem_map_of_mem pair.mem_all)
  | table =>
      exact List.mem_cons_self

def text : QuoteKey -> String
  | rate pair => QuoteCache.pairKey pair
  | table => QuoteCache.tableKey

theorem nodup_map_text : (all.map text).Nodup := by
  decide +kernel

theorem text_injective : Function.Injective text :=
  fun k k' h => List.inj_on_of_nodup_map nodup_map_text k.mem_all k'.mem_all h

end QuoteKey

inductive Quote where
  | rate (pair : CurrencyPair) (text : String)
  | table (table : RateTable)
deriving DecidableEq

namespace Quote

def key : Quote -> QuoteKey
  | rate pair _ => .rate pair
  | table _ => .table

def content : Quote -> CachedQuote
  | rate _ text => .rate text
  | table t => .table t

end Quote

def QuoteKey.read? : QuoteKey -> CachedQuote -> Option Quote
  | rate pair, .rate text => some (.rate pair text)
  | table, .table t => some (.table t)
  | _, _ => none

@[simp] theorem QuoteKey.read?_content (v : Quote) : v.key.read? v.content = some v := by
  cases v with
  | rate pair text =>
      rfl
  | table table =>
      rfl

namespace CacheEntry

def live? (entry : Option CacheEntry) (now : Nat) : Option CacheEntry :=
  entry.filter (fun e => e.Fresh now)

theorem live?_some (e : CacheEntry) (now : Nat) :
    live? (some e) now = if e.Fresh now then some e else none := by
  by_cases hfresh : e.Fresh now
  · simp [live?, hfresh]
  · simp [live?, hfresh]

theorem live?_live? (entry : Option CacheEntry) {now later : Nat} (h : now ≤ later) :
    live? (live? entry now) later = live? entry later := by
  cases entry with
  | none =>
      rfl
  | some e =>
      rw [live?_some]
      split
      next =>
        rfl
      next hstale =>
        have hlater : ¬ e.Fresh later := fun hfresh => hstale (Nat.lt_of_le_of_lt h hfresh)
        rw [live?_some, if_neg hlater]
        rfl

end CacheEntry

namespace QuoteCache

def look (c : QuoteCache) (now : Nat) : QuoteKey -> Option Quote × QuoteCache
  | .rate pair => ((c.getRate now pair).1.map (.rate pair), (c.getRate now pair).2)
  | .table => ((c.getTable now).1.map .table, (c.getTable now).2)

def store (c : QuoteCache) (now : Nat) : Quote -> QuoteCache
  | .rate pair text => c.insertRate now pair text
  | .table table => c.insertTable now table

def answer? (c : QuoteCache) (now : Nat) (k : QuoteKey) : Option Quote :=
  (c.look now k).1

theorem getRate_eq_some_iff (c : QuoteCache) (now : Nat) (pair : CurrencyPair) (rate : String) :
    (c.getRate now pair).1 = some rate <-> c.answer? now (.rate pair) = some (.rate pair rate) := by
  rw [answer?, look]
  simp

theorem getTable_eq_some_iff (c : QuoteCache) (now : Nat) (table : RateTable) :
    (c.getTable now).1 = some table <-> c.answer? now .table = some (.table table) := by
  rw [answer?, look]
  simp

theorem look_eq (c : QuoteCache) (now : Nat) (k : QuoteKey) :
    c.look now k = ((c.get now k.text).1.bind k.read?, (c.get now k.text).2) := by
  cases k with
  | rate pair =>
      rw [look, getRate, QuoteKey.text]
      rcases c.get now (pairKey pair) with ⟨found?, c'⟩
      cases found? with
      | none =>
          rfl
      | some q =>
          cases q <;> rfl
  | table =>
      rw [look, getTable, QuoteKey.text]
      rcases c.get now tableKey with ⟨found?, c'⟩
      cases found? with
      | none =>
          rfl
      | some q =>
          cases q <;> rfl

theorem store_eq (c : QuoteCache) (now : Nat) (v : Quote) :
    c.store now v = c.insert now v.key.text v.content := by
  cases v with
  | rate pair text =>
      rfl
  | table table =>
      rfl

/-!
## Entries
-/

theorem answer?_eq (c : QuoteCache) (now : Nat) (k : QuoteKey) :
    c.answer? now k =
      (CacheEntry.live? (c.entries.get? k.text) now).bind (fun e => k.read? e.quote) := by
  rw [answer?, look_eq, get]
  cases c.entries.get? k.text with
  | none =>
      rfl
  | some e =>
      rw [CacheEntry.live?_some]
      dsimp only
      split
      · rfl
      · rfl

/-- The second cache has the entries of the first, except that stale ones may be missing. -/
def LosesStale (now : Nat) (c c' : QuoteCache) : Prop :=
  forall key, c'.entries.get? key = c.entries.get? key ∨
    c'.entries.get? key = CacheEntry.live? (c.entries.get? key) now

theorem LosesStale.answer?_eq {now later : Nat} {c c' : QuoteCache} (h : LosesStale now c c')
    (hlater : now ≤ later) (k : QuoteKey) : c'.answer? later k = c.answer? later k := by
  rw [QuoteCache.answer?_eq, QuoteCache.answer?_eq]
  rcases h k.text with hkept | hlive
  · rw [hkept]
  · rw [hlive, CacheEntry.live?_live? _ hlater]

section Operations

variable (c : QuoteCache) (now : Nat)

theorem losesStale_get (key : String) : LosesStale now c (c.get now key).2 := by
  intro key'
  unfold get
  split
  next e hget =>
    split
    next =>
      exact Or.inl rfl
    next hstale =>
      change (c.entries.erase key).get? key' = _ ∨ (c.entries.erase key).get? key' = _
      rw [Directory.get?_erase]
      by_cases hkey : key' = key
      · right
        rw [if_pos hkey, hkey, hget, CacheEntry.live?_some, if_neg hstale]
      · left
        rw [if_neg hkey]
  next =>
    exact Or.inl rfl

theorem get?_evictExpired (key : String) :
    (c.evictExpired now).entries.get? key = CacheEntry.live? (c.entries.get? key) now :=
  Directory.get?_filter _ _ _

theorem losesStale_makeRoom : LosesStale now c (c.makeRoom now) := by
  unfold makeRoom
  split
  · exact fun key => Or.inr (c.get?_evictExpired now key)
  · exact fun _key => Or.inl rfl

theorem policy_makeRoom : (c.makeRoom now).policy = c.policy := by
  unfold makeRoom
  split
  · rfl
  · rfl

theorem policy_store (v : Quote) : (c.store now v).policy = c.policy := by
  rw [store_eq]
  exact c.policy_makeRoom now

theorem policy_look (k : QuoteKey) : (c.look now k).2.policy = c.policy := by
  rw [look_eq, get]
  split
  · split
    · rfl
    · rfl
  · rfl

theorem get?_store (v : Quote) (key : String) :
    (c.store now v).entries.get? key =
      if key = v.key.text then some ⟨v.content, now + c.policy.ttl⟩
      else (c.makeRoom now).entries.get? key := by
  rw [store_eq]
  change ((c.makeRoom now).entries.insert v.key.text _).get? key = _
  rw [Directory.get?_insert, policy_makeRoom]

/-!
## Answers
-/

variable {now} {later : Nat} (h : now ≤ later) (k : QuoteKey)

include h

theorem answer?_look (k' : QuoteKey) : (c.look now k').2.answer? later k = c.answer? later k := by
  rw [look_eq]
  exact (c.losesStale_get now k'.text).answer?_eq h k

theorem answer?_evictExpired : (c.evictExpired now).answer? later k = c.answer? later k :=
  LosesStale.answer?_eq (fun key => Or.inr (c.get?_evictExpired now key)) h k

/-- A stored quote is the answer until it expires, and nothing else changes. -/
theorem answer?_store (v : Quote) :
    (c.store now v).answer? later k =
      if k = v.key then (if later < now + c.policy.ttl then some v else none)
      else c.answer? later k := by
  split
  next hk =>
    rw [answer?_eq, get?_store, hk, if_pos rfl, CacheEntry.live?_some]
    change Option.bind (if later < now + c.policy.ttl then _ else _) _ = _
    split
    · exact QuoteKey.read?_content v
    · rfl
  next hk =>
    rw [answer?_eq, get?_store, if_neg (fun htext => hk (QuoteKey.text_injective htext)),
      ← answer?_eq]
    exact (c.losesStale_makeRoom now).answer?_eq h k

end Operations

theorem answer?_empty (policy : CachePolicy) (now : Nat) (k : QuoteKey) :
    (empty policy).answer? now k = none :=
  answer?_eq _ _ _

theorem answer?_clear (c : QuoteCache) (now : Nat) (k : QuoteKey) :
    c.clear.answer? now k = none :=
  answer?_empty c.policy now k

theorem answer?_removeRate (c : QuoteCache) (pair : CurrencyPair) (now : Nat) (k : QuoteKey) :
    (c.removeRate pair).answer? now k = if k = .rate pair then none else c.answer? now k := by
  rw [answer?_eq]
  change Option.bind (CacheEntry.live? ((c.entries.erase (pairKey pair)).get? k.text) now) _ = _
  rw [Directory.get?_erase]
  split
  next htext =>
    rw [if_pos (QuoteKey.text_injective htext)]
    rfl
  next htext =>
    rw [if_neg (fun hk => htext (congrArg QuoteKey.text hk)), answer?_eq]

/-!
## What is kept under which key
-/

/-- Under each key there is what answers the question of the key, and no other key is used. -/
def WellKeyed (c : QuoteCache) : Prop :=
  forall key e, c.entries.get? key = some e ->
    exists v : Quote, key = v.key.text ∧ e.quote = v.content

theorem wellKeyed_empty (policy : CachePolicy) : (empty policy).WellKeyed := by
  intro key e hget
  cases hget

section WellKeyed

variable {c : QuoteCache} (hc : c.WellKeyed) (now : Nat)

include hc

theorem LosesStale.wellKeyed {now : Nat} {c' : QuoteCache} (h : LosesStale now c c') :
    c'.WellKeyed := by
  intro key e hget
  rcases h key with hkept | hlive
  · rw [hkept] at hget
    exact hc key e hget
  · rw [hlive] at hget
    exact hc key e (Option.filter_eq_some_iff.mp hget).left

theorem wellKeyed_evictExpired : (c.evictExpired now).WellKeyed :=
  LosesStale.wellKeyed hc (fun key => Or.inr (c.get?_evictExpired now key))

theorem wellKeyed_look (k : QuoteKey) : (c.look now k).2.WellKeyed := by
  rw [look_eq]
  exact LosesStale.wellKeyed hc (c.losesStale_get now k.text)

theorem wellKeyed_store (v : Quote) : (c.store now v).WellKeyed := by
  intro key e hget
  rw [get?_store] at hget
  split at hget
  next hkey =>
    cases hget
    exact ⟨v, hkey, rfl⟩
  next =>
    exact LosesStale.wellKeyed hc (c.losesStale_makeRoom now) key e hget

theorem wellKeyed_removeRate (pair : CurrencyPair) : (c.removeRate pair).WellKeyed := by
  intro key e hget
  change (c.entries.erase (pairKey pair)).get? key = some e at hget
  rw [Directory.get?_erase] at hget
  split at hget
  next =>
    cases hget
  next =>
    exact hc key e hget

theorem isSome_answer? (k : QuoteKey) :
    (c.answer? now k).isSome = (CacheEntry.live? (c.entries.get? k.text) now).isSome := by
  rw [answer?_eq]
  cases hlive : CacheEntry.live? (c.entries.get? k.text) now with
  | none =>
      rfl
  | some e =>
      rcases hc k.text e (Option.filter_eq_some_iff.mp hlive).left with ⟨v, hkey, hcontent⟩
      rw [Option.bind_some, hcontent, QuoteKey.text_injective hkey, QuoteKey.read?_content]
      rfl

theorem size_eq_countP :
    c.size = QuoteKey.all.countP (fun k => (c.entries.get? k.text).isSome) := by
  have hall : forall key, (c.entries.get? key).isSome -> key ∈ QuoteKey.all.map QuoteKey.text := by
    intro key hsome
    rcases Option.isSome_iff_exists.mp hsome with ⟨e, hget⟩
    rcases hc key e hget with ⟨v, hkey, _hcontent⟩
    rw [hkey]
    exact List.mem_map_of_mem v.key.mem_all
  rw [size, c.entries.size_eq_countP QuoteKey.nodup_map_text hall, List.countP_map]
  rfl

end WellKeyed

end QuoteCache

end CurrencyWallet
