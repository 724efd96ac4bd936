import CurrencyWallet.Proofs.Service.Quotes
import CurrencyWallet.Proofs.Success

/-!
# A provider that does not change its mind

In front of such a provider a cache makes no difference: what it gives out is what the
provider would say to anybody who waits as long. The invariant is about all later times at
once, so that it survives whatever time does to the cache.
-/

namespace CurrencyWallet

/-- What a provider makes of a question to somebody who waits for this long. -/
def Provider.reply (p : Provider) (timeout : Nat) (k : QuoteKey) : Except ServiceError Quote :=
  if min p.delay Quotes.longestWait ≤ timeout then (p.answer k).mapError .rate
  else .error .deadlineExceeded

namespace Quotes

/-- Whatever the cache says from now on, the provider would say as well. -/
def Steady (timeout : Nat) (q : Quotes) : Prop :=
  forall k v time, q.clock ≤ time -> q.cache.answer? time k = some v ->
    q.provider.reply timeout k = .ok v

theorem steady_start (timeout : Nat) (policy : CachePolicy) (provider : Provider) :
    (start policy provider).Steady timeout := by
  intro k v time _htime hanswer
  change (QuoteCache.empty policy).answer? time k = some v at hanswer
  rw [QuoteCache.answer?_empty] at hanswer
  cases hanswer

section Steady

variable {q q' : Quotes} {timeout : Nat}

theorem Steady.later (h : q.Steady timeout) (hlater : Later q q') : q'.Steady timeout := by
  intro k v time htime hanswer
  rw [hlater.answer?_eq k time htime] at hanswer
  rw [hlater.provider_eq]
  exact h k v time (Nat.le_trans hlater.clock_le htime) hanswer

theorem Steady.store (h : q.Steady timeout) {v : Quote}
    (hreply : q.provider.reply timeout v.key = .ok v) :
    Steady timeout { q with cache := q.cache.store q.clock v } := by
  intro k v' time htime hanswer
  have hstored : q.clock ≤ time := htime
  change (q.cache.store q.clock v).answer? time k = some v' at hanswer
  rw [QuoteCache.answer?_store _ hstored] at hanswer
  split at hanswer
  next hkey =>
    split at hanswer
    next =>
      cases hanswer
      rw [hkey]
      exact hreply
    next =>
      cases hanswer
  next =>
    exact h k v' time hstored hanswer

theorem reply_of_answerTime_error {e : ServiceError}
    (h : q.answerTime (some (q.clock + timeout)) = .error e) (k : QuoteKey) :
    q.provider.reply timeout k = .error e := by
  unfold answerTime at h
  dsimp only at h
  split at h
  next =>
    cases h
  next hlate =>
    cases h
    rw [Provider.reply, if_neg (fun htime => hlate (Nat.add_le_add_left htime _))]

theorem reply_of_answerTime_ok {time : Nat}
    (h : q.answerTime (some (q.clock + timeout)) = .ok time) (k : QuoteKey) :
    q.clock ≤ time ∧ q.provider.reply timeout k = (q.provider.answer k).mapError .rate := by
  unfold answerTime at h
  dsimp only at h
  split at h
  next htime =>
    cases h
    exact ⟨Nat.le_add_right _ _, by rw [Provider.reply, if_pos (Nat.le_of_add_le_add_left htime)]⟩
  next =>
    cases h

/-- A question is answered as the provider would answer it, whatever the cache holds. -/
theorem Steady.ask (h : q.Steady timeout) (k : QuoteKey) :
    (q.ask (some (q.clock + timeout)) k).1 = q.provider.reply timeout k ∧
      (q.ask (some (q.clock + timeout)) k).2.provider = q.provider ∧
      (q.ask (some (q.clock + timeout)) k).2.Steady timeout := by
  have hasked := q.ask_cases (some (q.clock + timeout)) k
  generalize q.ask (some (q.clock + timeout)) k = outcome at hasked ⊢
  cases hasked with
  | cached hanswer =>
      exact ⟨(h k _ q.clock (Nat.le_refl _) hanswer).symm, rfl, h.later (q.later_looked k)⟩
  | givenUp _hmissing htime =>
      have hlater : Later q ((q.looked k).giveUp (some (q.clock + timeout))) :=
        (q.later_looked k).trans (later_clock _ (Nat.le_add_right _ _))
      exact ⟨(reply_of_answerTime_error htime k).symm, rfl, h.later hlater⟩
  | failed _hmissing htime hprovider =>
      rcases reply_of_answerTime_ok htime k with ⟨hclock, hreply⟩
      rw [hprovider] at hreply
      exact ⟨hreply.symm, rfl, h.later (q.later_answered hclock k)⟩
  | fetched _hmissing htime hprovider =>
      rcases reply_of_answerTime_ok htime k with ⟨hclock, hreply⟩
      rw [hprovider] at hreply
      have hanswered := h.later (q.later_answered hclock k)
      rw [← Provider.key_of_answer hprovider] at hreply
      refine ⟨?_, rfl, hanswered.store hreply⟩
      rw [← Provider.key_of_answer hprovider]
      exact hreply.symm

end Steady

/-!
## Two caches in front of one provider
-/

section Quoted

variable {q q' : Quotes} {timeout : Nat} (h : q.Steady timeout) (h' : q'.Steady timeout)
  (hprovider : q.provider = q'.provider)

include h h' hprovider

theorem Steady.getTable_eq :
    (q.getTable (some (q.clock + timeout))).1 = (q'.getTable (some (q'.clock + timeout))).1 := by
  have hreply : (q.ask (some (q.clock + timeout)) .table).1 =
      (q'.ask (some (q'.clock + timeout)) .table).1 := by
    rw [(h.ask .table).left, (h'.ask .table).left, hprovider]
  exact map_injective (fun _t _t' heq => Quote.table.inj heq) hreply

theorem Steady.getRate_eq (pair : CurrencyPair) :
    (q.getRate (some (q.clock + timeout)) pair).1 =
      (q'.getRate (some (q'.clock + timeout)) pair).1 := by
  have hreply : (q.ask (some (q.clock + timeout)) (.rate pair)).1 =
      (q'.ask (some (q'.clock + timeout)) (.rate pair)).1 := by
    rw [(h.ask (.rate pair)).left, (h'.ask (.rate pair)).left, hprovider]
  exact map_injective (fun _text _text' heq => (Quote.rate.inj heq).right) hreply

end Quoted

end Quotes

end CurrencyWallet
