import CurrencyWallet.Proofs.Ledger.Refusal
import CurrencyWallet.Proofs.Service.Operations
import CurrencyWallet.Proofs.Service.Quotes

/-!
# Rates that can always be had

As long as every provider quotes a rate for every pair of two currencies, whatever is asked of the
desk is carried out or refused by the rules. What a cache holds in front of such providers can be
read as well.
-/

namespace CurrencyWallet

namespace ServiceError

def IsRefusal (e : ServiceError) : Prop :=
  e.kind = .validation ∨ e.kind = .business

theorem isRefusal_ledger {e : LedgerError} (h : e.IsBusiness) : (ledger e).IsRefusal :=
  Or.inr (if_pos h)

end ServiceError

/-!
## Reliable quotes
-/

/-- The provider is available and quotes a positive decimal for every pair of two currencies. -/
def Provider.QuotesAll (p : Provider) : Prop :=
  forall pair, ¬ pair.IsIdentity ->
    exists text rate, p.rate pair = .ok text ∧ parseRate text = .ok rate

theorem Provider.quotesAll_iff {p : Provider} :
    p.QuotesAll <-> forall pair, pair ∈ CurrencyPair.all -> ¬ pair.IsIdentity ->
      (p.rate pair >>= parseRate).isOk = true := by
  constructor
  · intro h pair _hmem hpair
    rcases h pair hpair with ⟨text, rate, htext, hrate⟩
    rw [bind_eq_ok_iff.mpr ⟨text, htext, hrate⟩]
    rfl
  · intro h pair hpair
    have hok := h pair (CurrencyPair.mem_all pair) hpair
    cases hbind : p.rate pair >>= parseRate with
    | error e =>
        rw [hbind] at hok
        cases hok
    | ok rate =>
        rcases bind_eq_ok_iff.mp hbind with ⟨text, htext, hrate⟩
        exact ⟨text, rate, htext, hrate⟩

instance (p : Provider) : Decidable p.QuotesAll :=
  decidable_of_iff _ Provider.quotesAll_iff.symm

namespace Quotes

/-- The provider quotes every pair, and so has whoever has filled the cache. -/
structure Reliable (q : Quotes) : Prop where
  provider : q.provider.QuotesAll
  cached : forall pair text time, ¬ pair.IsIdentity -> q.clock ≤ time ->
    q.cache.answer? time (.rate pair) = some (.rate pair text) ->
    exists rate, parseRate text = .ok rate

theorem reliable_start (policy : CachePolicy) {provider : Provider} (h : provider.QuotesAll) :
    (start policy provider).Reliable where
  provider := h
  cached := by
    intro pair text time _hpair _htime hanswer
    change (QuoteCache.empty policy).answer? time (.rate pair) = _ at hanswer
    rw [QuoteCache.answer?_empty] at hanswer
    cases hanswer

section Reliable

variable {q q' : Quotes} (h : q.Reliable)

include h

theorem Reliable.later (hlater : Later q q') : q'.Reliable where
  provider := by
    rw [hlater.provider_eq]
    exact h.provider
  cached := by
    intro pair text time hpair htime hanswer
    rw [hlater.answer?_eq _ time htime] at hanswer
    exact h.cached pair text time hpair (Nat.le_trans hlater.clock_le htime) hanswer

theorem Reliable.setProvider {provider : Provider} (hprovider : provider.QuotesAll) :
    Reliable { q with provider := provider } where
  provider := hprovider
  cached := h.cached

theorem Reliable.store {pair : CurrencyPair} {text : String} {rate : Decimal}
    (htext : parseRate text = .ok rate) :
    Reliable { q with cache := q.cache.store q.clock (.rate pair text) } where
  provider := h.provider
  cached := by
    intro pair' text' time hpair htime hanswer
    have hstored : q.clock ≤ time := htime
    change (q.cache.store q.clock (.rate pair text)).answer? time (.rate pair') = _ at hanswer
    rw [QuoteCache.answer?_store _ hstored] at hanswer
    split at hanswer
    next =>
      split at hanswer
      next =>
        cases hanswer
        exact ⟨rate, htext⟩
      next =>
        cases hanswer
    next =>
      exact h.cached pair' text' time hpair hstored hanswer

theorem Reliable.ask {pair : CurrencyPair} (hpair : ¬ pair.IsIdentity) :
    (exists text rate, (q.ask none (.rate pair)).1 = .ok (.rate pair text) ∧
      parseRate text = .ok rate) ∧ (q.ask none (.rate pair)).2.Reliable := by
  rcases h.provider pair hpair with ⟨text, rate, htext, hrate⟩
  have hanswered : q.provider.answer (.rate pair) = .ok (.rate pair text) := by
    rw [Provider.answer, htext]
    rfl
  have hasked := q.ask_cases none (.rate pair)
  generalize q.ask none (.rate pair) = outcome at hasked ⊢
  cases hasked with
  | cached hanswer =>
      -- It may have been quoted by an earlier provider, under which the invariant held as well.
      rcases Option.map_eq_some_iff.mp hanswer with ⟨text', _hget, rfl⟩
      rcases h.cached pair text' q.clock hpair (Nat.le_refl _) hanswer with ⟨rate', hrate'⟩
      exact ⟨⟨text', rate', rfl, hrate'⟩, h.later (q.later_looked (.rate pair))⟩
  | givenUp _hmissing htime =>
      cases htime
  | failed _hmissing _htime hprovider =>
      rw [hanswered] at hprovider
      cases hprovider
  | fetched _hmissing htime hprovider =>
      rw [hanswered] at hprovider
      cases hprovider
      cases htime
      have hlater : Later q (q.answered q.answeredAt (.rate pair)) :=
        q.later_answered (Nat.le_add_right _ _) (.rate pair)
      exact ⟨⟨text, rate, rfl, hrate⟩, (h.later hlater).store hrate⟩

theorem Reliable.getRate {pair : CurrencyPair} (hpair : ¬ pair.IsIdentity) :
    (exists text rate, (q.getRate none pair).1 = .ok text ∧ parseRate text = .ok rate) ∧
      (q.getRate none pair).2.Reliable := by
  rcases h.ask hpair with ⟨⟨text, rate, hask, hrate⟩, hreliable⟩
  refine ⟨⟨text, rate, ?_, hrate⟩, hreliable⟩
  exact map_injective (fun _text _text' heq => (Quote.rate.inj heq).right) hask

end Reliable

end Quotes

/-!
## What the rules refuse
-/

theorem failsOnly_compute (amount rate : Decimal) :
    FailsOnly ServiceError.IsRefusal (Conversion.compute amount rate) := by
  unfold Conversion.compute
  dsimp only
  split
  · exact failsOnly_error (Or.inr rfl)
  · split
    · exact failsOnly_ok _
    · exact failsOnly_error (Or.inr rfl)

namespace Desk

theorem failsOnly_requirePositive (amount : Decimal) :
    FailsOnly ServiceError.IsRefusal (requirePositive amount) := by
  unfold requirePositive
  split
  · exact failsOnly_error (Or.inr rfl)
  · exact failsOnly_ok _

theorem failsOnly_parseCurrency (code : String) :
    FailsOnly ServiceError.IsRefusal (parseCurrency code) := by
  unfold parseCurrency Currency.parse
  split
  · exact failsOnly_ok _
  · exact failsOnly_error (Or.inr rfl)

theorem failsOnly_parsePair (source target : String) :
    FailsOnly ServiceError.IsRefusal (parsePair source target) :=
  (failsOnly_parseCurrency source).bind fun _source _hsource =>
    (failsOnly_parseCurrency target).bind fun _target _htarget => failsOnly_ok _

theorem failsOnly_allowedCurrency (code : String) (amount : Decimal) :
    FailsOnly ServiceError.IsRefusal (allowedCurrency code amount) :=
  (failsOnly_requirePositive amount).bind fun _u _hpos => failsOnly_parseCurrency code

theorem failsOnly_allowedPair (source target : String) (amount : Decimal) :
    FailsOnly ServiceError.IsRefusal (allowedPair source target amount) := by
  apply (failsOnly_requirePositive amount).bind
  intro _u _hpos
  apply (failsOnly_parsePair source target).bind
  intro pair _hpair
  split
  · exact failsOnly_error (Or.inl rfl)
  · exact failsOnly_ok _

section Operations

variable (d : Desk) (user : UserId)

theorem failsOnly_apply (m : Mutation) :
    FailsOnly ServiceError.IsRefusal (d.apply user m).1 :=
  (d.ledger.failsOnly_apply user m).mapError fun _e he => ServiceError.isRefusal_ledger he

theorem failsOnly_allowed (f : Currency -> Mutation) (code : String) (amount : Decimal) :
    let outcome := match allowedCurrency code amount with
      | .ok c => d.apply user (f c)
      | .error e => (.error e, d)
    FailsOnly ServiceError.IsRefusal outcome.1 ∧ outcome.2.quotes = d.quotes := by
  cases hallowed : allowedCurrency code amount with
  | error e =>
      exact ⟨failsOnly_error (failsOnly_allowedCurrency code amount e hallowed), rfl⟩
  | ok c =>
      exact ⟨d.failsOnly_apply user (f c), rfl⟩

theorem failsOnly_exchange (h : d.quotes.Reliable) (source target : String) (amount : Decimal) :
    FailsOnly ServiceError.IsRefusal (d.exchange none user source target amount).1 ∧
      (d.exchange none user source target amount).2.quotes.Reliable := by
  have hends := d.exchange_ends none user source target amount
  generalize d.exchange none user source target amount = outcome at hends ⊢
  have hquoted : forall {pair}, Allowed source target amount pair ->
      (exists text rate, (d.quote none pair).1 = .ok text ∧ parseRate text = .ok rate) ∧
        (d.quote none pair).2.quotes.Reliable :=
    fun hallowed => h.getRate hallowed.distinct
  cases hends with
  | refused hrefused =>
      exact ⟨failsOnly_error (failsOnly_allowedPair source target amount _ hrefused), h⟩
  | unquoted hallowed hquote =>
      rcases hquoted hallowed with ⟨⟨text, rate, htext, _hrate⟩, _hquotes⟩
      rw [hquote] at htext
      cases htext
  | unreadable hallowed hquote hread =>
      rcases hquoted hallowed with ⟨⟨text, rate, htext, hrate⟩, _hquotes⟩
      rw [hquote] at htext
      cases htext
      rw [hread] at hrate
      cases hrate
  | uncomputed hallowed _hquote _hrate hcompute =>
      exact ⟨failsOnly_error (failsOnly_compute _ _ _ hcompute), (hquoted hallowed).right⟩
  | unbooked hallowed _hquote _hrate _hcompute hbook =>
      have hbusiness := d.ledger.failsOnly_outcome user _ _ hbook
      exact ⟨failsOnly_error (ServiceError.isRefusal_ledger hbusiness), (hquoted hallowed).right⟩
  | booked hallowed _hquote _hrate _hcompute _hbook =>
      exact ⟨failsOnly_ok _, (hquoted hallowed).right⟩

end Operations

end Desk

end CurrencyWallet
