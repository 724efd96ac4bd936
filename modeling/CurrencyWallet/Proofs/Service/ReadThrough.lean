import CurrencyWallet.Proofs.Last
import CurrencyWallet.Proofs.Service.Quotes
import Mathlib.Data.List.Induction

/-!
# Reading through the cache

A history of questions, with pauses and changes of the provider between them, is told by its
log: what was asked and when, whether the provider was contacted, and what was answered when.
The log alone decides what becomes of the next question. The provider is contacted unless it
has answered the same question within the lifetime of a quote, and otherwise its last answer
is repeated.
-/

namespace CurrencyWallet

inductive QuoteEvent where
  | pause (milliseconds : Nat)
  | provider (p : Provider)
  | ask (k : QuoteKey)

structure Lookup where
  key : QuoteKey
  askedAt : Nat
  answeredAt : Nat
  /-- Whether the provider has been contacted. -/
  contacted : Bool
  answer : Except ServiceError Quote

def Lookup.Fetched (k : QuoteKey) (f : Lookup) : Prop :=
  f.key = k ∧ f.contacted = true ∧ exists v, f.answer = .ok v

namespace Quotes

def lookUpBy (q : Quotes) (deadline : Option Nat) (k : QuoteKey) : Lookup :=
  let (answer, q') := q.ask deadline k
  ⟨k, q.clock, q'.clock, decide (q'.contacts ≠ q.contacts), answer⟩

def lookUp (q : Quotes) (k : QuoteKey) : Lookup :=
  q.lookUpBy none k

def step (q : Quotes) : QuoteEvent -> Quotes
  | .pause milliseconds => q.advance milliseconds
  | .provider p => { q with provider := p }
  | .ask k => (q.ask none k).2

def logged (q : Quotes) : QuoteEvent -> List Lookup
  | .pause _ => []
  | .provider _ => []
  | .ask k => [q.lookUp k]

def after (q : Quotes) (es : List QuoteEvent) : Quotes :=
  es.foldl step q

def log (q : Quotes) : List QuoteEvent -> List Lookup
  | [] => []
  | e :: es => q.logged e ++ (q.step e).log es

theorem after_snoc (q : Quotes) (es : List QuoteEvent) (e : QuoteEvent) :
    q.after (es ++ [e]) = (q.after es).step e := by
  rw [after, List.foldl_append]
  rfl

theorem log_snoc (q : Quotes) (es : List QuoteEvent) (e : QuoteEvent) :
    q.log (es ++ [e]) = q.log es ++ (q.after es).logged e := by
  induction es generalizing q with
  | nil =>
      exact List.append_nil _
  | cons e' es ih =>
      change q.logged e' ++ (q.step e').log (es ++ [e]) = _
      rw [ih, ← List.append_assoc]
      rfl

/-!
## One question
-/

inductive Seen (q : Quotes) (k : QuoteKey) : Lookup -> Quotes -> Prop where
  | cached {v : Quote} :
      q.cache.answer? q.clock k = some v ->
      Seen q k ⟨k, q.clock, q.clock, false, .ok v⟩ (q.looked k)
  | failed {e : RateError} :
      q.cache.answer? q.clock k = none ->
      q.provider.answer k = .error e ->
      Seen q k ⟨k, q.clock, q.answeredAt, true, .error (.rate e)⟩ (q.answered q.answeredAt k)
  | fetched {v : Quote} :
      q.cache.answer? q.clock k = none ->
      q.provider.answer k = .ok v ->
      Seen q k ⟨k, q.clock, q.answeredAt, true, .ok v⟩
        { q.answered q.answeredAt k with cache := (q.looked k).cache.store q.answeredAt v }

theorem lookUp_cases (q : Quotes) (k : QuoteKey) :
    q.Seen k (q.lookUp k) (q.ask none k).2 := by
  have hasked := q.ask_cases none k
  rw [lookUp, lookUpBy]
  generalize q.ask none k = outcome at hasked ⊢
  have hcontacted : decide (q.contacts.add k ≠ q.contacts) = true :=
    decide_eq_true (q.contacts.add_ne k)
  cases hasked with
  | cached hanswer =>
      have hsame : decide (q.contacts ≠ q.contacts) = false :=
        decide_eq_false (fun h => h rfl)
      change Seen q k ⟨k, q.clock, q.clock, decide (q.contacts ≠ q.contacts), .ok _⟩ _
      rw [hsame]
      exact Seen.cached hanswer
  | givenUp hanswer htime =>
      cases htime
  | failed hanswer htime hprovider =>
      cases htime
      change Seen q k ⟨k, q.clock, q.answeredAt, decide (q.contacts.add k ≠ q.contacts), _⟩ _
      rw [hcontacted]
      exact Seen.failed hanswer hprovider
  | fetched hanswer htime hprovider =>
      cases htime
      change Seen q k ⟨k, q.clock, q.answeredAt, decide (q.contacts.add k ≠ q.contacts), _⟩ _
      rw [hcontacted]
      exact Seen.fetched hanswer hprovider

theorem Seen.unique {q q' q'' : Quotes} {k : QuoteKey} {f f' : Lookup} (h : q.Seen k f q')
    (h' : q.Seen k f' q'') : f' = f ∧ q'' = q' := by
  cases h with
  | cached hanswer =>
      cases h' with
      | cached hanswer' =>
          cases hanswer'.symm.trans hanswer
          exact ⟨rfl, rfl⟩
      | failed hmissing' _hprovider' =>
          cases hmissing'.symm.trans hanswer
      | fetched hmissing' _hprovider' =>
          cases hmissing'.symm.trans hanswer
  | failed hmissing hprovider =>
      cases h' with
      | cached hanswer' =>
          cases hanswer'.symm.trans hmissing
      | failed _hmissing' hprovider' =>
          cases hprovider'.symm.trans hprovider
          exact ⟨rfl, rfl⟩
      | fetched _hmissing' hprovider' =>
          cases hprovider'.symm.trans hprovider
  | fetched hmissing hprovider =>
      cases h' with
      | cached hanswer' =>
          cases hanswer'.symm.trans hmissing
      | failed _hmissing' hprovider' =>
          cases hprovider'.symm.trans hprovider
      | fetched _hmissing' hprovider' =>
          cases hprovider'.symm.trans hprovider
          exact ⟨rfl, rfl⟩

/-!
## What the log tells of the cache
-/

/-- The cache answers with what was fetched last, as far as that is fresh. -/
structure Remembers (policy : CachePolicy) (log : List Lookup) (q : Quotes) : Prop where
  policy_eq : q.cache.policy = policy
  answeredAt_le : forall f, f ∈ log -> f.answeredAt ≤ q.clock
  /-- Behind every fetch there is the last one, and it is not older. -/
  exists_last : forall k f, f ∈ log -> f.Fetched k ->
    exists g, LastWith (Lookup.Fetched k) log g ∧ f.answeredAt ≤ g.answeredAt
  answer?_iff : forall k v later, q.clock ≤ later ->
    (q.cache.answer? later k = some v <->
      exists f, LastWith (Lookup.Fetched k) log f ∧ f.answer = .ok v ∧
        later < f.answeredAt + policy.ttl)

theorem remembers_start (policy : CachePolicy) (provider : Provider) :
    Remembers policy [] (start policy provider) where
  policy_eq := rfl
  answeredAt_le := fun _f hf => absurd hf List.not_mem_nil
  exists_last := fun _k _f hf => absurd hf List.not_mem_nil
  answer?_iff := by
    intro k v later _hlater
    constructor
    · intro hanswer
      change (QuoteCache.empty policy).answer? later k = some v at hanswer
      rw [QuoteCache.answer?_empty] at hanswer
      cases hanswer
    · intro hlast
      rcases hlast with ⟨f, hlast, _hanswer, _hfresh⟩
      exact absurd hlast not_lastWith_nil

section Remembers

variable {policy : CachePolicy} {log : List Lookup} {q q' : Quotes}

theorem Remembers.later (h : Remembers policy log q) (hlater : Later q q') :
    Remembers policy log q' where
  policy_eq := hlater.policy_eq.trans h.policy_eq
  answeredAt_le := fun f hf => Nat.le_trans (h.answeredAt_le f hf) hlater.clock_le
  exists_last := h.exists_last
  answer?_iff := by
    intro k v time htime
    rw [hlater.answer?_eq k time htime]
    exact h.answer?_iff k v time (Nat.le_trans hlater.clock_le htime)

theorem Remembers.of_cache_eq (h : Remembers policy log q) (hcache : q'.cache = q.cache)
    (hclock : q.clock ≤ q'.clock) : Remembers policy log q' where
  policy_eq := by
    rw [hcache]
    exact h.policy_eq
  answeredAt_le := fun f hf => Nat.le_trans (h.answeredAt_le f hf) hclock
  exists_last := h.exists_last
  answer?_iff := by
    intro k v time htime
    rw [hcache]
    exact h.answer?_iff k v time (Nat.le_trans hclock htime)

theorem Remembers.append_of_not_fetched (h : Remembers policy log q) {f : Lookup}
    (hf : forall k, ¬ f.Fetched k) (htime : f.answeredAt ≤ q.clock) :
    Remembers policy (log ++ [f]) q where
  policy_eq := h.policy_eq
  answeredAt_le := by
    intro g hg
    rcases List.mem_append.mp hg with hg | hg
    · exact h.answeredAt_le g hg
    · rw [List.mem_singleton.mp hg]
      exact htime
  exists_last := by
    intro k g hg hfetched
    rcases List.mem_append.mp hg with hg | hg
    · rcases h.exists_last k g hg hfetched with ⟨last, hlast, hle⟩
      exact ⟨last, (lastWith_snoc_of_not (hf k)).mpr hlast, hle⟩
    · rw [List.mem_singleton.mp hg] at hfetched
      exact absurd hfetched (hf k)
  answer?_iff := by
    intro k v later hlater
    simp only [lastWith_snoc_of_not (hf k)]
    exact h.answer?_iff k v later hlater

theorem Remembers.append_of_fetched (h : Remembers policy log q) {f : Lookup} {k : QuoteKey}
    {v : Quote} (hf : f.Fetched k) (hv : f.answer = .ok v) (hpolicy : q'.cache.policy = policy)
    (hclock : q.clock ≤ q'.clock) (htime : f.answeredAt = q'.clock)
    (hanswer : forall k' later, q'.clock ≤ later -> q'.cache.answer? later k' =
      if k' = k then (if later < f.answeredAt + policy.ttl then some v else none)
      else q.cache.answer? later k') :
    Remembers policy (log ++ [f]) q' where
  policy_eq := hpolicy
  answeredAt_le := by
    intro g hg
    rcases List.mem_append.mp hg with hg | hg
    · exact Nat.le_trans (h.answeredAt_le g hg) hclock
    · rw [List.mem_singleton.mp hg]
      exact Nat.le_of_eq htime
  exists_last := by
    intro k' g hg hfetched
    by_cases hk : f.Fetched k'
    · refine ⟨f, (lastWith_snoc hk).mpr rfl, ?_⟩
      rcases List.mem_append.mp hg with hg | hg
      · rw [htime]
        exact Nat.le_trans (h.answeredAt_le g hg) hclock
      · exact Nat.le_of_eq (congrArg Lookup.answeredAt (List.mem_singleton.mp hg))
    · rcases List.mem_append.mp hg with hg | hg
      · rcases h.exists_last k' g hg hfetched with ⟨last, hlast, hle⟩
        exact ⟨last, (lastWith_snoc_of_not hk).mpr hlast, hle⟩
      · rw [List.mem_singleton.mp hg] at hfetched
        exact absurd hfetched hk
  answer?_iff := by
    intro k' v' later hlater
    rw [hanswer k' later hlater]
    by_cases hk : k' = k
    · rw [if_pos hk, hk]
      simp only [lastWith_snoc hf]
      constructor
      · intro hsome
        split at hsome
        next hfresh =>
          cases hsome
          exact ⟨f, rfl, hv, hfresh⟩
        next =>
          cases hsome
      · intro hlast
        rcases hlast with ⟨g, rfl, hg, hfresh⟩
        rw [hv] at hg
        cases hg
        rw [if_pos hfresh]
    · have hother : ¬ f.Fetched k' := fun hfetched => hk (hfetched.left.symm.trans hf.left)
      rw [if_neg hk]
      simp only [lastWith_snoc_of_not hother]
      exact h.answer?_iff k' v' later (Nat.le_trans hclock hlater)

theorem answer?_eq_none_of_fetched {deadline : Option Nat} {k k' : QuoteKey}
    (h : (q.lookUpBy deadline k).Fetched k') : q.cache.answer? q.clock k' = none := by
  have hasked := q.ask_cases deadline k
  rw [lookUpBy] at h
  rcases h with ⟨hkey, hcontacted, v, hanswer⟩
  have hk : k = k' := hkey
  rw [← hk]
  generalize q.ask deadline k = outcome at hasked hcontacted hanswer
  cases hasked with
  | cached _hanswer =>
      exact absurd rfl (of_decide_eq_true hcontacted)
  | givenUp _hmissing _htime =>
      cases hanswer
  | failed _hmissing _htime _hprovider =>
      cases hanswer
  | fetched hmissing _htime _hprovider =>
      exact hmissing

/-- Whoever is given a quote is given the one that was fetched last, perhaps just now. -/
theorem Remembers.exists_last_of_ask (h : Remembers policy log q) {deadline : Option Nat}
    {k : QuoteKey} {v : Quote} (hv : (q.ask deadline k).1 = .ok v) :
    exists f, LastWith (Lookup.Fetched k) (log ++ [q.lookUpBy deadline k]) f ∧
      f.answer = .ok v := by
  have hasked := q.ask_cases deadline k
  rw [lookUpBy]
  generalize q.ask deadline k = outcome at hasked hv ⊢
  cases hasked with
  | cached hanswer =>
      cases hv
      rcases (h.answer?_iff k v q.clock (Nat.le_refl _)).mp hanswer with ⟨f, hlast, hf, _hfresh⟩
      refine ⟨f, (lastWith_snoc_of_not ?_).mpr hlast, hf⟩
      intro hfetched
      exact absurd rfl (of_decide_eq_true hfetched.right.left)
  | givenUp _hmissing _htime =>
      cases hv
  | failed _hmissing _htime _hprovider =>
      cases hv
  | fetched _hmissing _htime _hprovider =>
      cases hv
      refine ⟨_, (lastWith_snoc ?_).mpr rfl, rfl⟩
      exact ⟨rfl, decide_eq_true (q.contacts.add_ne k), v, rfl⟩

theorem Remembers.askBy (h : Remembers policy log q) (timeout : Option Nat) (k : QuoteKey) :
    Remembers policy (log ++ [q.lookUpBy (timeout.map (q.clock + ·)) k])
      (q.ask (timeout.map (q.clock + ·)) k).2 := by
  have hasked := q.ask_cases (timeout.map (q.clock + ·)) k
  rw [lookUpBy]
  generalize q.ask (timeout.map (q.clock + ·)) k = outcome at hasked ⊢
  cases hasked with
  | cached _hanswer =>
      apply (h.later (q.later_looked k)).append_of_not_fetched
      · intro k' hfetched
        exact absurd rfl (of_decide_eq_true hfetched.right.left)
      · exact Nat.le_refl _
  | givenUp _hmissing htime =>
      cases timeout with
      | none =>
          cases htime
      | some milliseconds =>
          have hlater := (q.later_looked k).trans
            (later_clock (q.looked k) (Nat.le_add_right q.clock milliseconds))
          apply (h.later hlater).append_of_not_fetched
          · intro k' hfetched
            rcases hfetched.right.right with ⟨v, hv⟩
            cases hv
          · exact Nat.le_refl _
  | failed _hmissing htime _hprovider =>
      apply (h.later (q.later_answered (le_of_answerTime htime) k)).append_of_not_fetched
      · intro k' hfetched
        rcases hfetched.right.right with ⟨v, hv⟩
        cases hv
      · exact Nat.le_refl _
  | fetched _hmissing htime hprovider =>
      rename_i v answeredAt
      have hanswered := h.later (q.later_answered (le_of_answerTime htime) k)
      have hcontacted : decide (q.contacts.add k ≠ q.contacts) = true :=
        decide_eq_true (q.contacts.add_ne k)
      refine hanswered.append_of_fetched (k := k) (v := v) ⟨rfl, hcontacted, v, rfl⟩ rfl ?_
        (Nat.le_refl _) rfl ?_
      · exact (QuoteCache.policy_store _ _ _).trans hanswered.policy_eq
      · intro k' time htime'
        have hstored : answeredAt ≤ time := htime'
        change ((q.looked k).cache.store answeredAt v).answer? time k' = _
        rw [QuoteCache.answer?_store _ hstored, Provider.key_of_answer hprovider]
        exact congrArg (fun p : CachePolicy => if k' = k then
          (if time < answeredAt + p.ttl then some v else none) else _) hanswered.policy_eq

theorem remembers_after (policy : CachePolicy) (provider : Provider) (es : List QuoteEvent) :
    Remembers policy ((start policy provider).log es) ((start policy provider).after es) := by
  induction es using List.reverseRecOn with
  | nil =>
      exact remembers_start policy provider
  | append_singleton es e ih =>
      rw [after_snoc, log_snoc]
      cases e with
      | pause milliseconds =>
          rw [logged, List.append_nil]
          exact ih.of_cache_eq rfl (Nat.le_add_right _ _)
      | provider p =>
          rw [logged, List.append_nil]
          exact ih.of_cache_eq rfl (Nat.le_refl _)
      | ask k =>
          exact ih.askBy none k

theorem Remembers.answeredAt_le_last (h : Remembers policy log q) {k : QuoteKey} {f g : Lookup}
    (hlast : LastWith (Lookup.Fetched k) log f) (hg : g ∈ log) (hfetched : g.Fetched k) :
    g.answeredAt ≤ f.answeredAt := by
  rcases h.exists_last k g hg hfetched with ⟨last, hlast', hle⟩
  rw [hlast.unique hlast']
  exact hle

theorem Remembers.exists_answer?_iff (h : Remembers policy log q) (k : QuoteKey) :
    (exists v, q.cache.answer? q.clock k = some v) <->
      exists f, f ∈ log ∧ f.Fetched k ∧ q.clock < f.answeredAt + policy.ttl := by
  constructor
  · intro hsome
    rcases hsome with ⟨v, hv⟩
    rcases (h.answer?_iff k v q.clock (Nat.le_refl _)).mp hv with ⟨f, hlast, _hanswer, hfresh⟩
    exact ⟨f, hlast.mem.left, hlast.mem.right, hfresh⟩
  · intro hfetch
    rcases hfetch with ⟨f, hf, hfetched, hfresh⟩
    rcases h.exists_last k f hf hfetched with ⟨g, hlast, hle⟩
    rcases hlast.mem.right.right.right with ⟨v, hv⟩
    refine ⟨v, (h.answer?_iff k v q.clock (Nat.le_refl _)).mpr ⟨g, hlast, hv, ?_⟩⟩
    exact Nat.lt_of_lt_of_le hfresh (Nat.add_le_add_right hle _)

end Remembers

/-!
## Questions that make no difference
-/

structure Alike (q₁ q₂ : Quotes) : Prop extends Later q₁ q₂ where
  clock_eq : q₂.clock = q₁.clock

section Alike

variable {q₁ q₂ q₃ : Quotes}

theorem Alike.symm (h : Alike q₁ q₂) : Alike q₂ q₁ where
  policy_eq := h.policy_eq.symm
  provider_eq := h.provider_eq.symm
  clock_le := Nat.le_of_eq h.clock_eq
  answer?_eq := fun k time htime =>
    (h.answer?_eq k time (Nat.le_trans (Nat.le_of_eq h.clock_eq) htime)).symm
  clock_eq := h.clock_eq.symm

theorem Alike.trans (h : Alike q₁ q₂) (h' : Alike q₂ q₃) : Alike q₁ q₃ where
  toLater := h.toLater.trans h'.toLater
  clock_eq := h'.clock_eq.trans h.clock_eq

theorem Alike.advance (h : Alike q₁ q₂) (milliseconds : Nat) :
    Alike (q₁.advance milliseconds) (q₂.advance milliseconds) where
  policy_eq := h.policy_eq
  provider_eq := h.provider_eq
  clock_le := Nat.add_le_add_right h.clock_le _
  answer?_eq := fun k time htime =>
    h.answer?_eq k time (Nat.le_trans (Nat.le_add_right _ _) htime)
  clock_eq := congrArg (· + milliseconds) h.clock_eq

/-- Later quotes are the earlier ones after a pause. -/
theorem Later.alike_advance (h : Later q₁ q₂) :
    exists d, Alike q₂ (q₁.advance d) := by
  have hclock : q₁.clock + (q₂.clock - q₁.clock) = q₂.clock := Nat.add_sub_of_le h.clock_le
  refine ⟨q₂.clock - q₁.clock, ⟨h.policy_eq.symm, h.provider_eq.symm, ?_, ?_⟩, hclock⟩
  · exact Nat.le_of_eq hclock.symm
  · intro k time htime
    rw [advance, hclock] at htime
    exact (h.answer?_eq k time htime).symm

theorem Alike.answeredAt_eq (h : Alike q₁ q₂) : q₂.answeredAt = q₁.answeredAt := by
  rw [answeredAt, answeredAt, h.clock_eq, h.provider_eq]

theorem Alike.later (h : Alike q₁ q₂) {q₁' q₂' : Quotes} (h₁ : Later q₁ q₁') (h₂ : Later q₂ q₂')
    (hclock : q₂'.clock = q₁'.clock) : Alike q₁' q₂' where
  policy_eq := h₂.policy_eq.trans (h.policy_eq.trans h₁.policy_eq.symm)
  provider_eq := h₂.provider_eq.trans (h.provider_eq.trans h₁.provider_eq.symm)
  clock_le := Nat.le_of_eq hclock.symm
  answer?_eq := by
    intro k time htime
    have htime₁ : q₁'.clock ≤ time := Nat.le_trans (Nat.le_of_eq hclock.symm) htime
    have htime₂ : q₂.clock ≤ time := Nat.le_trans h₂.clock_le htime
    rw [h₂.answer?_eq k time htime, h.answer?_eq k time htime₂, h₁.answer?_eq k time htime₁]
  clock_eq := hclock

theorem Alike.looked (h : Alike q₁ q₂) (k : QuoteKey) : Alike (q₁.looked k) (q₂.looked k) :=
  h.later (q₁.later_looked k) (q₂.later_looked k) h.clock_eq

theorem Alike.answered (h : Alike q₁ q₂) (k : QuoteKey) :
    Alike (q₁.answered q₁.answeredAt k) (q₂.answered q₂.answeredAt k) :=
  h.later (q₁.later_answered (Nat.le_add_right _ _) k) (q₂.later_answered (Nat.le_add_right _ _) k)
    h.answeredAt_eq

theorem Alike.store (h : Alike q₁ q₂) (v : Quote) :
    Alike { q₁ with cache := q₁.cache.store q₁.clock v }
      { q₂ with cache := q₂.cache.store q₂.clock v } where
  policy_eq := (QuoteCache.policy_store _ _ _).trans
    (h.policy_eq.trans (QuoteCache.policy_store _ _ _).symm)
  provider_eq := h.provider_eq
  clock_le := h.clock_le
  answer?_eq := by
    intro k time htime
    have htime₂ : q₂.clock ≤ time := htime
    have htime₁ : q₁.clock ≤ time := Nat.le_trans h.clock_le htime₂
    rw [QuoteCache.answer?_store _ htime₂, QuoteCache.answer?_store _ htime₁, h.policy_eq,
      h.clock_eq, h.answer?_eq k time htime₂]
  clock_eq := h.clock_eq

theorem Alike.seen (h : Alike q₁ q₂) {k : QuoteKey} {f : Lookup} {q₁' : Quotes}
    (hseen : q₁.Seen k f q₁') : exists q₂', q₂.Seen k f q₂' ∧ Alike q₁' q₂' := by
  have hanswer : q₂.cache.answer? q₂.clock k = q₁.cache.answer? q₁.clock k := by
    rw [h.answer?_eq k q₂.clock (Nat.le_refl _), h.clock_eq]
  cases hseen with
  | cached hcached =>
      rw [← hanswer] at hcached
      rw [← h.clock_eq]
      exact ⟨_, Seen.cached hcached, h.looked k⟩
  | failed hmissing hprovider =>
      rw [← hanswer] at hmissing
      rw [← h.provider_eq] at hprovider
      rw [← h.clock_eq]
      have hanswered := h.answered k
      rw [← h.answeredAt_eq] at hanswered ⊢
      exact ⟨_, Seen.failed hmissing hprovider, hanswered⟩
  | fetched hmissing hprovider =>
      rename_i v
      rw [← hanswer] at hmissing
      rw [← h.provider_eq] at hprovider
      rw [← h.clock_eq]
      have hseen := Seen.fetched hmissing hprovider
      have hstored := (h.answered k).store v
      rw [h.answeredAt_eq] at hseen hstored
      exact ⟨_, hseen, hstored⟩

theorem Alike.ask (h : Alike q₁ q₂) (k : QuoteKey) :
    q₁.lookUp k = q₂.lookUp k ∧ Alike (q₁.ask none k).2 (q₂.ask none k).2 := by
  rcases h.seen (q₁.lookUp_cases k) with ⟨q₂', hseen, halike⟩
  rcases hseen.unique (q₂.lookUp_cases k) with ⟨hlookUp, hask⟩
  rw [hlookUp, hask]
  exact ⟨rfl, halike⟩

theorem Alike.step (h : Alike q₁ q₂) (e : QuoteEvent) :
    q₁.logged e = q₂.logged e ∧ Alike (q₁.step e) (q₂.step e) := by
  cases e with
  | pause milliseconds =>
      exact ⟨rfl, h.advance milliseconds⟩
  | provider p =>
      exact ⟨rfl, ⟨h.policy_eq, rfl, h.clock_le, h.answer?_eq⟩, h.clock_eq⟩
  | ask k =>
      exact ⟨congrArg (fun f => [f]) (h.ask k).left, (h.ask k).right⟩

theorem Alike.log_eq (h : Alike q₁ q₂) (es : List QuoteEvent) : q₁.log es = q₂.log es := by
  induction es generalizing q₁ q₂ with
  | nil =>
      rfl
  | cons e es ih =>
      rw [log, log, (h.step e).left, ih (h.step e).right]

end Alike

/-!
## The next question
-/

section Seen

variable {q q' : Quotes} {k : QuoteKey} {f : Lookup}

theorem Seen.contacted_iff (h : q.Seen k f q') :
    f.contacted = true <-> ¬ exists v, q.cache.answer? q.clock k = some v := by
  cases h with
  | cached hanswer =>
      simp [hanswer]
  | failed hmissing _hprovider =>
      simp [hmissing]
  | fetched hmissing _hprovider =>
      simp [hmissing]

theorem Seen.contacts_eq (h : q.Seen k f q') :
    q'.contacts = if f.contacted = true then q.contacts.add k else q.contacts := by
  cases h with
  | cached _hanswer =>
      rfl
  | failed _hmissing _hprovider =>
      rfl
  | fetched _hmissing _hprovider =>
      rfl

theorem Seen.exists_answer (h : q.Seen k f q') (hcached : f.contacted = false) :
    exists v, q.cache.answer? q.clock k = some v ∧ f.answer = .ok v := by
  cases h with
  | cached hanswer =>
      exact ⟨_, hanswer, rfl⟩
  | failed _hmissing _hprovider =>
      cases hcached
  | fetched _hmissing _hprovider =>
      cases hcached

theorem Seen.answer_eq (h : q.Seen k f q') (hcontacted : f.contacted = true) :
    f.answer = (q.provider.answer k).mapError .rate := by
  cases h with
  | cached _hanswer =>
      cases hcontacted
  | failed _hmissing hprovider =>
      rw [hprovider]
      rfl
  | fetched _hmissing hprovider =>
      rw [hprovider]
      rfl

/-- Without a fetch there is nothing to tell a question from a pause. -/
theorem Seen.later (h : q.Seen k f q') (hfetched : ¬ f.Fetched k) : Later q q' := by
  cases h with
  | cached _hanswer =>
      exact q.later_looked k
  | failed _hmissing _hprovider =>
      exact q.later_answered (Nat.le_add_right _ _) k
  | fetched _hmissing _hprovider =>
      exact absurd ⟨rfl, rfl, _, rfl⟩ hfetched

end Seen

end Quotes

end CurrencyWallet
