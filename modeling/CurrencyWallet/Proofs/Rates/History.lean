import CurrencyWallet.Proofs.Last
import CurrencyWallet.Proofs.Rates.Lookup
import Mathlib.Data.List.Induction

/-!
# The cache and its history

Whatever is done to a cache, and in whatever order, a question is answered with the quote
that was stored for it last, as long as that is fresh and nothing has removed it. How often
the cache was swept, and how many quotes it was meant to hold, makes no difference. The
statistics count the questions that would be answered.
-/

namespace CurrencyWallet

inductive CacheOperation where
  | insertRate (pair : CurrencyPair) (rate : String)
  | insertTable (table : RateTable)
  | getRate (pair : CurrencyPair)
  | getTable
  | removeRate (pair : CurrencyPair)
  | clear
  | evictExpired
  | stats
  | size

namespace CacheOperation

def perform (c : QuoteCache) (now : Nat) : CacheOperation -> QuoteCache
  | insertRate pair rate => c.insertRate now pair rate
  | insertTable table => c.insertTable now table
  | getRate pair => (c.getRate now pair).2
  | getTable => (c.getTable now).2
  | removeRate pair => c.removeRate pair
  | clear => c.clear
  | evictExpired => c.evictExpired now
  | stats => c
  | size => c

/-- The operation decides what is answered from then on. -/
def Decides (k : QuoteKey) : CacheOperation -> Prop
  | insertRate pair _ => k = .rate pair
  | insertTable _ => k = .table
  | removeRate pair => k = .rate pair
  | clear => True
  | _ => False

instance (k : QuoteKey) : DecidablePred (Decides k)
  | insertRate pair _ => inferInstanceAs (Decidable (k = .rate pair))
  | insertTable _ => inferInstanceAs (Decidable (k = .table))
  | removeRate pair => inferInstanceAs (Decidable (k = .rate pair))
  | clear => inferInstanceAs (Decidable True)
  | getRate _ => inferInstanceAs (Decidable False)
  | getTable => inferInstanceAs (Decidable False)
  | evictExpired => inferInstanceAs (Decidable False)
  | stats => inferInstanceAs (Decidable False)
  | size => inferInstanceAs (Decidable False)

def stored? : CacheOperation -> Option Quote
  | insertRate pair rate => some (.rate pair rate)
  | insertTable table => some (.table table)
  | _ => none

theorem stored?_eq_rate_iff {o : CacheOperation} {pair : CurrencyPair} {rate : String} :
    o.stored? = some (.rate pair rate) <-> o = .insertRate pair rate := by
  cases o <;> simp [stored?]

theorem stored?_eq_table_iff {o : CacheOperation} {table : RateTable} :
    o.stored? = some (.table table) <-> o = .insertTable table := by
  cases o <;> simp [stored?]

section Perform

variable (c : QuoteCache) {now later : Nat} {k : QuoteKey} {o : CacheOperation}

theorem policy_perform : (o.perform c now).policy = c.policy := by
  cases o with
  | insertRate pair rate =>
      exact c.policy_store now (.rate pair rate)
  | insertTable table =>
      exact c.policy_store now (.table table)
  | getRate pair =>
      exact c.policy_look now (.rate pair)
  | getTable =>
      exact c.policy_look now .table
  | removeRate pair =>
      rfl
  | clear =>
      rfl
  | evictExpired =>
      rfl
  | stats =>
      rfl
  | size =>
      rfl

theorem wellKeyed_perform (hc : c.WellKeyed) : (o.perform c now).WellKeyed := by
  cases o with
  | insertRate pair rate =>
      exact QuoteCache.wellKeyed_store hc now (.rate pair rate)
  | insertTable table =>
      exact QuoteCache.wellKeyed_store hc now (.table table)
  | getRate pair =>
      exact QuoteCache.wellKeyed_look hc now (.rate pair)
  | getTable =>
      exact QuoteCache.wellKeyed_look hc now .table
  | removeRate pair =>
      exact QuoteCache.wellKeyed_removeRate hc pair
  | clear =>
      exact QuoteCache.wellKeyed_empty c.policy
  | evictExpired =>
      exact QuoteCache.wellKeyed_evictExpired hc now
  | stats =>
      exact hc
  | size =>
      exact hc

variable (hlater : now ≤ later)

include hlater

theorem answer?_perform_of_decides (h : o.Decides k) :
    (o.perform c now).answer? later k =
      if later < now + c.policy.ttl then o.stored? else none := by
  cases o with
  | insertRate pair rate =>
      exact (c.answer?_store hlater k (.rate pair rate)).trans (if_pos h)
  | insertTable table =>
      exact (c.answer?_store hlater k (.table table)).trans (if_pos h)
  | removeRate pair =>
      exact ((c.answer?_removeRate pair later k).trans (if_pos h)).trans (ite_self _).symm
  | clear =>
      exact (c.answer?_clear later k).trans (ite_self _).symm
  | getRate pair =>
      exact h.elim
  | getTable =>
      exact h.elim
  | evictExpired =>
      exact h.elim
  | stats =>
      exact h.elim
  | size =>
      exact h.elim

theorem answer?_perform_of_not_decides (h : ¬ o.Decides k) :
    (o.perform c now).answer? later k = c.answer? later k := by
  cases o with
  | insertRate pair rate =>
      exact (c.answer?_store hlater k (.rate pair rate)).trans (if_neg h)
  | insertTable table =>
      exact (c.answer?_store hlater k (.table table)).trans (if_neg h)
  | getRate pair =>
      exact c.answer?_look hlater k (.rate pair)
  | getTable =>
      exact c.answer?_look hlater k .table
  | removeRate pair =>
      exact (c.answer?_removeRate pair later k).trans (if_neg h)
  | clear =>
      exact absurd trivial h
  | evictExpired =>
      exact c.answer?_evictExpired hlater k
  | stats =>
      rfl
  | size =>
      rfl

end Perform

end CacheOperation

abbrev CacheHistory : Type :=
  List (Nat × CacheOperation)

/-- The times of a history do not decrease, and all of it has happened by now. -/
def CacheHistory.Until (es : CacheHistory) (now : Nat) : Prop :=
  (es.map Prod.fst ++ [now]).Pairwise (fun earlier later => earlier ≤ later)

instance (es : CacheHistory) (now : Nat) : Decidable (es.Until now) :=
  inferInstanceAs (Decidable ((es.map Prod.fst ++ [now]).Pairwise _))

theorem CacheHistory.Until.snoc {es : CacheHistory} {e : Nat × CacheOperation} {now : Nat}
    (h : CacheHistory.Until (es ++ [e]) now) : es.Until now ∧ e.1 ≤ now := by
  unfold CacheHistory.Until at h
  rw [List.map_append, List.append_assoc, List.pairwise_append] at h
  rcases h with ⟨hes, htail, hcross⟩
  constructor
  · apply List.pairwise_append.mpr
    refine ⟨hes, List.pairwise_singleton _ _, ?_⟩
    intro t ht t' ht'
    exact hcross t ht t' (List.mem_append_right _ ht')
  · exact List.rel_of_pairwise_cons htail (List.mem_singleton.mpr rfl)

namespace QuoteCache

def after (c : QuoteCache) (es : CacheHistory) : QuoteCache :=
  es.foldl (fun c e => e.2.perform c e.1) c

theorem after_snoc (c : QuoteCache) (es : CacheHistory) (e : Nat × CacheOperation) :
    c.after (es ++ [e]) = e.2.perform (c.after es) e.1 :=
  List.foldl_concat _ _ _ _

theorem policy_after (c : QuoteCache) (es : CacheHistory) :
    (c.after es).policy = c.policy := by
  induction es using List.reverseRecOn with
  | nil =>
      rfl
  | append_singleton es e ih =>
      rw [after_snoc, CacheOperation.policy_perform, ih]

theorem wellKeyed_after (policy : CachePolicy) (es : CacheHistory) :
    ((empty policy).after es).WellKeyed := by
  induction es using List.reverseRecOn with
  | nil =>
      exact wellKeyed_empty policy
  | append_singleton es e ih =>
      rw [after_snoc]
      exact CacheOperation.wellKeyed_perform _ ih

def LastDecision (es : CacheHistory) (k : QuoteKey) (time : Nat) (o : CacheOperation) : Prop :=
  LastWith (fun e : Nat × CacheOperation => e.2.Decides k) es (time, o)

section Snoc

variable {es : CacheHistory} {e : Nat × CacheOperation} {k : QuoteKey} {time : Nat}
  {o : CacheOperation}

theorem lastDecision_snoc (h : e.2.Decides k) :
    LastDecision (es ++ [e]) k time o <-> (time, o) = e :=
  lastWith_snoc (p := fun e : Nat × CacheOperation => e.2.Decides k) h

theorem lastDecision_snoc_of_not (h : ¬ e.2.Decides k) :
    LastDecision (es ++ [e]) k time o <-> LastDecision es k time o :=
  lastWith_snoc_of_not (p := fun e : Nat × CacheOperation => e.2.Decides k) h

end Snoc

theorem answer?_after_iff (policy : CachePolicy) {es : CacheHistory} {now : Nat}
    (h : es.Until now) (k : QuoteKey) (v : Quote) :
    ((empty policy).after es).answer? now k = some v <->
      exists time o, LastDecision es k time o ∧ o.stored? = some v ∧ now < time + policy.ttl := by
  -- Histories grow at the end: the newest operation decides about the key, or changes nothing.
  induction es using List.reverseRecOn with
  | nil =>
      constructor
      · intro hanswer
        rw [after, List.foldl_nil, answer?_empty] at hanswer
        cases hanswer
      · intro hlast
        rcases hlast with ⟨time, o, hlast, _hstored, _hfresh⟩
        exact absurd hlast not_lastWith_nil
  | append_singleton es e ih =>
      rcases h.snoc with ⟨hes, hnow⟩
      rw [after_snoc]
      by_cases hdecides : e.2.Decides k
      · rw [CacheOperation.answer?_perform_of_decides _ hnow hdecides, policy_after]
        change (if now < e.1 + policy.ttl then _ else _) = some v <-> _
        constructor
        · intro hanswer
          split at hanswer
          next hfresh =>
            exact ⟨e.1, e.2, (lastDecision_snoc hdecides).mpr rfl, hanswer, hfresh⟩
          next =>
            cases hanswer
        · intro hlast
          rcases hlast with ⟨time, o, hlast, hstored, hfresh⟩
          cases (lastDecision_snoc hdecides).mp hlast
          rw [if_pos hfresh]
          exact hstored
      · rw [CacheOperation.answer?_perform_of_not_decides _ hnow hdecides, ih hes]
        simp only [lastDecision_snoc_of_not hdecides]

/-!
## Counting
-/

def hits (c : QuoteCache) (now : Nat) : Nat :=
  QuoteKey.all.countP (fun k => (c.answer? now k).isSome)

theorem valid_stats_eq_size (c : QuoteCache) (now : Nat) :
    (c.stats now).valid = (c.evictExpired now).size := by
  change (c.entries.entries.map Prod.snd).countP _ = (c.entries.entries.filter _).length
  rw [List.countP_map, List.countP_eq_length_filter]
  rfl

theorem valid_stats {c : QuoteCache} (hc : c.WellKeyed) (now : Nat) :
    (c.stats now).valid = c.hits now := by
  rw [valid_stats_eq_size, size_eq_countP (wellKeyed_evictExpired hc now), hits]
  congr 1
  funext k
  rw [get?_evictExpired, isSome_answer? hc]

theorem valid_stats_le (c : QuoteCache) (now : Nat) : (c.stats now).valid ≤ c.size := by
  calc
    (c.stats now).valid ≤ c.entries.values.length := List.countP_le_length
    _ = c.size := List.length_map Prod.snd

end QuoteCache

end CurrencyWallet
