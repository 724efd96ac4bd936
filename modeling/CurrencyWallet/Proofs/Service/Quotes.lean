import CurrencyWallet.Proofs.Rates.Lookup
import CurrencyWallet.Service.Quotes

/-!
# What becomes of a question

A question for a rate and one for the table take the same course: the cache answers, or
else the provider is waited for, and its answer is stored before it is passed on. `Asked`
lists the ways in which that ends. Unless a quote is stored, nothing has happened but that
time has passed.
-/

namespace CurrencyWallet

def Provider.answer (p : Provider) : QuoteKey -> Except RateError Quote
  | .rate pair => (p.rate pair).map (.rate pair)
  | .table => p.table.map .table

theorem Provider.key_of_answer {p : Provider} {k : QuoteKey} {v : Quote}
    (h : p.answer k = .ok v) : v.key = k := by
  cases k with
  | rate pair =>
      rw [answer] at h
      cases hrate : p.rate pair with
      | error e =>
          rw [hrate] at h
          cases h
      | ok rate =>
          rw [hrate] at h
          cases h
          rfl
  | table =>
      rw [answer] at h
      cases htable : p.table with
      | error e =>
          rw [htable] at h
          cases h
      | ok table =>
          rw [htable] at h
          cases h
          rfl

def Contacts.add (c : Contacts) : QuoteKey -> Contacts
  | .rate _ => { c with rate := c.rate + 1 }
  | .table => { c with table := c.table + 1 }

theorem Contacts.add_ne (c : Contacts) (k : QuoteKey) : c.add k ≠ c := by
  rcases c with ⟨rate, table⟩
  cases k with
  | rate pair =>
      simp [add]
  | table =>
      simp [add]

namespace Quotes

def ask (q : Quotes) (deadline : Option Nat) : QuoteKey -> Except ServiceError Quote × Quotes
  | .rate pair => ((q.getRate deadline pair).1.map (.rate pair), (q.getRate deadline pair).2)
  | .table => ((q.getTable deadline).1.map .table, (q.getTable deadline).2)

def looked (q : Quotes) (k : QuoteKey) : Quotes :=
  { q with cache := (q.cache.look q.clock k).2 }

def answered (q : Quotes) (time : Nat) (k : QuoteKey) : Quotes :=
  { q.looked k with clock := time, contacts := q.contacts.add k }

def answeredAt (q : Quotes) : Nat :=
  q.clock + min q.provider.delay longestWait

inductive Asked (q : Quotes) (deadline : Option Nat) (k : QuoteKey) :
    Except ServiceError Quote × Quotes -> Prop where
  | cached {v : Quote} :
      q.cache.answer? q.clock k = some v ->
      Asked q deadline k (.ok v, q.looked k)
  | givenUp {e : ServiceError} :
      q.cache.answer? q.clock k = none ->
      q.answerTime deadline = .error e ->
      Asked q deadline k (.error e, (q.looked k).giveUp deadline)
  | failed {e : RateError} {time : Nat} :
      q.cache.answer? q.clock k = none ->
      q.answerTime deadline = .ok time ->
      q.provider.answer k = .error e ->
      Asked q deadline k (.error (.rate e), q.answered time k)
  | fetched {v : Quote} {time : Nat} :
      q.cache.answer? q.clock k = none ->
      q.answerTime deadline = .ok time ->
      q.provider.answer k = .ok v ->
      Asked q deadline k
        (.ok v, { q.answered time k with cache := (q.looked k).cache.store time v })

section Cases

variable (q : Quotes) (deadline : Option Nat)

theorem answerTime_looked (k : QuoteKey) :
    (q.looked k).answerTime deadline = q.answerTime deadline :=
  rfl

theorem askRate_cases (pair : CurrencyPair) :
    q.Asked deadline (.rate pair) (q.ask deadline (.rate pair)) := by
  rcases hget : q.cache.getRate q.clock pair with ⟨rate?, cache⟩
  have hlooked : q.looked (.rate pair) = { q with cache := cache } := by
    rw [looked, QuoteCache.look, hget]
  have hanswer : q.cache.answer? q.clock (.rate pair) = rate?.map (.rate pair) := by
    rw [QuoteCache.answer?, QuoteCache.look, hget]
  rw [ask, getRate, hget]
  cases rate? with
  | some rate =>
      change Asked q _ _ (.ok (.rate pair rate), { q with cache := cache })
      rw [← hlooked]
      exact Asked.cached hanswer
  | none =>
      change Asked q _ _ (((fetchRate { q with cache := cache } deadline pair).1).map _,
        (fetchRate { q with cache := cache } deadline pair).2)
      rw [← hlooked, fetchRate, answerTime_looked]
      cases htime : q.answerTime deadline with
      | error e =>
          exact Asked.givenUp hanswer htime
      | ok time =>
          dsimp only [looked]
          cases hrate : q.provider.rate pair with
          | error e =>
              have hprovider : q.provider.answer (.rate pair) = .error e := by
                rw [Provider.answer, hrate]
                rfl
              exact Asked.failed hanswer htime hprovider
          | ok rate =>
              have hprovider : q.provider.answer (.rate pair) = .ok (.rate pair rate) := by
                rw [Provider.answer, hrate]
                rfl
              exact Asked.fetched hanswer htime hprovider

theorem askTable_cases : q.Asked deadline .table (q.ask deadline .table) := by
  rcases hget : q.cache.getTable q.clock with ⟨table?, cache⟩
  have hlooked : q.looked .table = { q with cache := cache } := by
    rw [looked, QuoteCache.look, hget]
  have hanswer : q.cache.answer? q.clock .table = table?.map .table := by
    rw [QuoteCache.answer?, QuoteCache.look, hget]
  rw [ask, getTable, hget]
  cases table? with
  | some table =>
      change Asked q _ _ (.ok (.table table), { q with cache := cache })
      rw [← hlooked]
      exact Asked.cached hanswer
  | none =>
      change Asked q _ _ (((fetchTable { q with cache := cache } deadline).1).map _,
        (fetchTable { q with cache := cache } deadline).2)
      rw [← hlooked, fetchTable, answerTime_looked]
      cases htime : q.answerTime deadline with
      | error e =>
          exact Asked.givenUp hanswer htime
      | ok time =>
          dsimp only [looked]
          cases htable : q.provider.table with
          | error e =>
              have hprovider : q.provider.answer .table = .error e := by
                rw [Provider.answer, htable]
                rfl
              exact Asked.failed hanswer htime hprovider
          | ok table =>
              have hprovider : q.provider.answer .table = .ok (.table table) := by
                rw [Provider.answer, htable]
                rfl
              exact Asked.fetched hanswer htime hprovider

theorem ask_cases (k : QuoteKey) : q.Asked deadline k (q.ask deadline k) := by
  cases k with
  | rate pair =>
      exact q.askRate_cases deadline pair
  | table =>
      exact q.askTable_cases deadline

end Cases

/-!
## Time
-/

theorem le_of_answerTime {q : Quotes} {deadline : Option Nat} {time : Nat}
    (h : q.answerTime deadline = .ok time) : q.clock ≤ time := by
  unfold answerTime at h
  dsimp only at h
  split at h
  next =>
    cases h
    exact Nat.le_add_right _ _
  next =>
    split at h
    next =>
      cases h
      exact Nat.le_add_right _ _
    next =>
      cases h

theorem answerTime_eq_error {q : Quotes} {deadline : Option Nat} {e : ServiceError}
    (h : q.answerTime deadline = .error e) : e = .deadlineExceeded := by
  unfold answerTime at h
  dsimp only at h
  split at h
  next =>
    cases h
  next =>
    split at h
    next =>
      cases h
    next =>
      cases h
      rfl

theorem clock_le_ask (q : Quotes) (timeout : Option Nat) (k : QuoteKey) :
    q.clock ≤ (q.ask (timeout.map (q.clock + ·)) k).2.clock := by
  have hasked := q.ask_cases (timeout.map (q.clock + ·)) k
  generalize q.ask (timeout.map (q.clock + ·)) k = outcome at hasked ⊢
  cases hasked with
  | cached _hanswer =>
      exact Nat.le_refl _
  | givenUp _hmissing _htime =>
      cases timeout with
      | none =>
          exact Nat.le_refl _
      | some milliseconds =>
          exact Nat.le_add_right _ _
  | failed _hmissing htime _hprovider =>
      exact le_of_answerTime htime
  | fetched _hmissing htime _hprovider =>
      exact le_of_answerTime htime

/-- The same quotes at a later time. Only what is stale by then may be missing. -/
structure Later (q q' : Quotes) : Prop where
  policy_eq : q'.cache.policy = q.cache.policy
  provider_eq : q'.provider = q.provider
  clock_le : q.clock ≤ q'.clock
  answer?_eq : forall k time, q'.clock ≤ time ->
    q'.cache.answer? time k = q.cache.answer? time k

theorem Later.trans {q₁ q₂ q₃ : Quotes} (h : Later q₁ q₂) (h' : Later q₂ q₃) : Later q₁ q₃ where
  policy_eq := h'.policy_eq.trans h.policy_eq
  provider_eq := h'.provider_eq.trans h.provider_eq
  clock_le := Nat.le_trans h.clock_le h'.clock_le
  answer?_eq := fun k time htime =>
    (h'.answer?_eq k time htime).trans (h.answer?_eq k time (Nat.le_trans h'.clock_le htime))

section Later

variable (q : Quotes) {time : Nat} (htime : q.clock ≤ time) (k : QuoteKey)

theorem later_looked : Later q (q.looked k) where
  policy_eq := q.cache.policy_look q.clock k
  provider_eq := rfl
  clock_le := Nat.le_refl _
  answer?_eq := fun k' _time htime => q.cache.answer?_look htime k' k

include htime

theorem later_clock : Later q { q with clock := time } where
  policy_eq := rfl
  provider_eq := rfl
  clock_le := htime
  answer?_eq := fun _k _time _htime => rfl

theorem later_answered : Later q (q.answered time k) where
  policy_eq := (q.later_looked k).policy_eq
  provider_eq := rfl
  clock_le := htime
  answer?_eq := fun k' _time htime' =>
    (q.later_looked k).answer?_eq k' _ (Nat.le_trans htime htime')

end Later

end Quotes

end CurrencyWallet
