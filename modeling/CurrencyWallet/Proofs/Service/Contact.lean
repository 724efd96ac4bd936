import CurrencyWallet.Proofs.Service.Exchange
import CurrencyWallet.Proofs.Service.Operations
import CurrencyWallet.Proofs.Service.ReadThrough

/-!
# What an exchange touches

An exchange that the rules refuse leaves the desk as it is. One that they allow contacts the
provider once if there is no fresh quote for the pair, and not at all if there is one. The books
change exactly when the exchange succeeds, at the rate that was quoted.
-/

namespace CurrencyWallet

def QuoteCache.Holds (c : QuoteCache) (now : Nat) (pair : CurrencyPair) (text : String) : Prop :=
  exists e, c.entries.get? (pairKey pair) = some e ∧ e.quote = .rate text ∧ e.Fresh now

theorem QuoteKey.read?_rate_eq_some_iff {pair : CurrencyPair} {q : CachedQuote} {v : Quote} :
    (QuoteKey.rate pair).read? q = some v <-> exists text, q = .rate text ∧ v = .rate pair text := by
  cases q with
  | table table =>
      simp [read?]
  | rate text =>
      simp [read?, eq_comm]

theorem QuoteCache.answer?_rate_eq_some_iff {c : QuoteCache} {now : Nat} {pair : CurrencyPair}
    {v : Quote} :
    c.answer? now (.rate pair) = some v <->
      exists text, c.Holds now pair text ∧ v = .rate pair text := by
  rw [answer?_eq, Option.bind_eq_some_iff]
  constructor
  · intro h
    rcases h with ⟨e, hlive, hread⟩
    rcases QuoteKey.read?_rate_eq_some_iff.mp hread with ⟨text, hquote, rfl⟩
    rcases Option.filter_eq_some_iff.mp hlive with ⟨hget, hfresh⟩
    exact ⟨text, ⟨e, hget, hquote, of_decide_eq_true hfresh⟩, rfl⟩
  · intro h
    rcases h with ⟨text, ⟨e, hget, hquote, hfresh⟩, rfl⟩
    exact ⟨e, Option.filter_eq_some_iff.mpr ⟨hget, decide_eq_true hfresh⟩,
      QuoteKey.read?_rate_eq_some_iff.mpr ⟨text, hquote, rfl⟩⟩

namespace Quotes

/-- The text is the fresh quote of the pair, or what the provider would answer where there is
none. -/
def Supplies (q : Quotes) (pair : CurrencyPair) (text : String) : Prop :=
  q.cache.Holds q.clock pair text ∨
    (forall text', ¬ q.cache.Holds q.clock pair text') ∧ q.provider.rate pair = .ok text

section GetRate

variable (q : Quotes) (pair : CurrencyPair)

theorem getRate_eq_ok_iff {deadline : Option Nat} {text : String} :
    (q.getRate deadline pair).1 = .ok text <->
      (q.ask deadline (.rate pair)).1 = .ok (.rate pair text) := by
  rw [ask]
  constructor
  · intro h
    rw [h]
    rfl
  · intro h
    exact map_injective (fun _text _text' heq => (Quote.rate.inj heq).right) h

theorem getRate_eq_error_rate {q : Quotes} {deadline : Option Nat} {pair : CurrencyPair}
    {e : RateError} (h : (q.getRate deadline pair).1 = .error (.rate e)) :
    q.cache.answer? q.clock (.rate pair) = none ∧ q.provider.rate pair = .error e ∧
      (q.getRate deadline pair).2.contacts = q.contacts.add (.rate pair) := by
  have hasked := q.ask_cases deadline (.rate pair)
  have hfailed : (q.ask deadline (.rate pair)).1 = .error (.rate e) := by
    rw [ask, h]
    rfl
  change _ ∧ _ ∧ (q.ask deadline (.rate pair)).2.contacts = _
  generalize q.ask deadline (.rate pair) = outcome at hasked hfailed ⊢
  cases hasked with
  | cached _hanswer =>
      cases hfailed
  | givenUp _hmissing htime =>
      cases hfailed
      cases answerTime_eq_error htime
  | failed hmissing _htime hprovider =>
      cases hfailed
      refine ⟨hmissing, ?_, rfl⟩
      rw [Provider.answer] at hprovider
      cases hrate : q.provider.rate pair with
      | error e' =>
          rw [hrate] at hprovider
          cases hprovider
          rfl
      | ok text =>
          rw [hrate] at hprovider
          cases hprovider
  | fetched _hmissing _htime _hprovider =>
      cases hfailed

theorem contacted_iff : (q.lookUp (.rate pair)).contacted = true <->
    forall text, ¬ q.cache.Holds q.clock pair text := by
  rw [(q.lookUp_cases (.rate pair)).contacted_iff, not_exists]
  constructor
  · intro h text hholds
    exact h _ (QuoteCache.answer?_rate_eq_some_iff.mpr ⟨text, hholds, rfl⟩)
  · intro h v hv
    rcases QuoteCache.answer?_rate_eq_some_iff.mp hv with ⟨text, hholds, _hv⟩
    exact h text hholds

theorem getRate_of_holds {text : String} (h : q.cache.Holds q.clock pair text) :
    (q.getRate none pair).1 = .ok text ∧ (q.getRate none pair).2.contacts = q.contacts := by
  have hseen := q.lookUp_cases (.rate pair)
  have hcontacted : (q.lookUp (.rate pair)).contacted ≠ true :=
    fun hcontacted => (q.contacted_iff pair).mp hcontacted text h
  constructor
  · rcases hseen.exists_answer (Bool.eq_false_of_not_eq_true hcontacted) with ⟨v, hv, hanswer⟩
    rw [QuoteCache.answer?_rate_eq_some_iff.mpr ⟨text, h, rfl⟩] at hv
    cases hv
    exact (q.getRate_eq_ok_iff pair).mpr hanswer
  · exact hseen.contacts_eq.trans (if_neg hcontacted)

theorem getRate_of_not_holds (h : forall text, ¬ q.cache.Holds q.clock pair text) :
    (q.getRate none pair).1 = (q.provider.rate pair).mapError .rate ∧
      (q.getRate none pair).2.contacts = q.contacts.add (.rate pair) := by
  have hseen := q.lookUp_cases (.rate pair)
  have hcontacted := (q.contacted_iff pair).mpr h
  constructor
  · have hanswer : (q.getRate none pair).1.map (Quote.rate pair) =
        ((q.provider.rate pair).map (Quote.rate pair)).mapError .rate :=
      hseen.answer_eq hcontacted
    apply map_injective (fun _text _text' heq => (Quote.rate.inj heq).right)
    rw [hanswer]
    cases q.provider.rate pair with
    | error e =>
        rfl
    | ok text =>
        rfl
  · exact hseen.contacts_eq.trans (if_pos hcontacted)

theorem supplies_of_getRate {deadline : Option Nat} {text : String}
    (h : (q.getRate deadline pair).1 = .ok text) : q.Supplies pair text := by
  rw [getRate_eq_ok_iff] at h
  have hasked := q.ask_cases deadline (.rate pair)
  generalize q.ask deadline (.rate pair) = outcome at h hasked
  cases hasked with
  | cached hanswer =>
      cases h
      rcases QuoteCache.answer?_rate_eq_some_iff.mp hanswer with ⟨text', hholds, heq⟩
      cases heq
      exact Or.inl hholds
  | givenUp _hmissing _htime =>
      cases h
  | failed _hmissing _htime _hprovider =>
      cases h
  | fetched hmissing _htime hprovider =>
      cases h
      right
      constructor
      · intro text' hholds
        rw [QuoteCache.answer?_rate_eq_some_iff.mpr ⟨text', hholds, rfl⟩] at hmissing
        cases hmissing
      · exact map_injective (fun _text _text' heq => (Quote.rate.inj heq).right) hprovider

end GetRate

end Quotes

namespace Desk

/-!
## What the rules refuse
-/

/-- The rules refuse to exchange the amount: it is not positive, a text names no currency, or both
name the same one. -/
def Refused (source target : String) (amount : Decimal) : Prop :=
  amount.value ≤ 0 ∨ (forall c : Currency, ¬ c.IsNamedBy source) ∨
    (forall c : Currency, ¬ c.IsNamedBy target) ∨
    exists c : Currency, c.IsNamedBy source ∧ c.IsNamedBy target

theorem refused_iff {source target : String} {amount : Decimal} :
    Refused source target amount <-> forall pair, ¬ Allowed source target amount pair := by
  constructor
  · intro h pair hallowed
    rcases h with hpos | hsource | htarget | ⟨c, hsource, htarget⟩
    · exact absurd hallowed.amount_pos (not_lt.mpr hpos)
    · exact hsource _ hallowed.source_named
    · exact htarget _ hallowed.target_named
    · apply hallowed.distinct
      rw [hallowed.source_named.unique hsource, hallowed.target_named.unique htarget]
  · intro h
    by_contra hrefused
    simp only [Refused, not_or, not_forall, not_not, not_exists, not_and, not_le] at hrefused
    rcases hrefused with ⟨hpos, ⟨source', hsource⟩, ⟨target', htarget⟩, hdistinct⟩
    refine h ⟨source', target'⟩ ⟨hpos, hsource, htarget, ?_⟩
    intro heq
    have htarget' : target' = source' := heq.symm
    rw [htarget'] at htarget
    exact hdistinct source' hsource htarget

/-!
## What an exchange changes
-/

/-- An exchange that is booked leaves less of what it takes. -/
theorem lt_of_booked {b b' : Balances} {source target : Currency} {debit credit : Decimal}
    (hb : (b.get source).WithinBounds) (hdebit : 0 < debit.value)
    (hplaces : debit.scale ≤ Decimal.balancePlaces)
    (h : Mutation.Booked b (.exchange source target debit credit) b') :
    (b'.get source).value < (b.get source).value := by
  cases h with
  | exchange hne hcovered hrest _hsum _hrange =>
      rw [Balances.get_set_of_ne _ _ hne, Balances.get_set_self]
      rw [← Decimal.value_le_value_iff] at hcovered
      rcases Decimal.sub?_of_debit hb (le_of_lt hdebit) hplaces hcovered with
        ⟨r, hr, _hbounds, hvalue⟩
      rw [hrest] at hr
      cases hr
      linarith

theorem openWallet_ne_of_booked {l : Ledger} {user : UserId} {source target : Currency}
    {debit credit : Decimal} {b' : Balances}
    (hwallet : forall b, l.wallets.get? user = some b -> b.WithinBounds) (hdebit : 0 < debit.value)
    (hplaces : debit.scale ≤ Decimal.balancePlaces)
    (h : l.Booked user (.exchange source target debit credit) b') : l.openWallet user b' ≠ l := by
  rcases h with ⟨b, hget, hbooked⟩
  intro heq
  have hsame := Ledger.get?_openWallet_self l user b'
  rw [heq, hget] at hsame
  cases hsame
  exact lt_irrefl _ (lt_of_booked (hwallet b' hget source) hdebit hplaces hbooked)

/-- What is not allowed touches nothing. An exchange that is allowed contacts the provider once
unless there is a fresh quote for the pair. The books change exactly when it succeeds, at the
rate that the quote says. -/
theorem exchange_effects {d : Desk} {user : UserId}
    (hwallet : forall b, d.ledger.wallets.get? user = some b -> b.WithinBounds)
    (source target : String) (amount : Decimal) :
    let outcome := d.exchange none user source target amount
    (Refused source target amount -> exists e, outcome = (.error e, d)) ∧
    (¬ Refused source target amount -> exists pair, Allowed source target amount pair ∧
      (forall text, d.quotes.cache.Holds d.quotes.clock pair text ->
        outcome.2.quotes.contacts = d.quotes.contacts) ∧
      ((forall text, ¬ d.quotes.cache.Holds d.quotes.clock pair text) ->
        outcome.2.quotes.contacts = d.quotes.contacts.add (.rate pair)) ∧
      forall o, outcome.1 = .ok o ->
        exists text, d.quotes.Supplies pair text ∧ parseRate text = .ok o.rate) ∧
    ((exists o, outcome.1 = .ok o) <-> outcome.2.ledger ≠ d.ledger) := by
  intro outcome
  have hends : d.Exchanged none user source target amount outcome :=
    d.exchange_ends none user source target amount
  refine ⟨?_, ?_, ?_⟩
  · intro hrefused
    rw [refused_iff] at hrefused
    cases hallowed : allowedPair source target amount with
    | error e =>
        refine ⟨e, ?_⟩
        change d.exchange none user source target amount = (.error e, d)
        rw [exchange, hallowed]
    | ok pair =>
        exact absurd (allowedPair_eq_ok_iff.mp hallowed) (hrefused pair)
  · intro hallowed
    rw [refused_iff, not_forall] at hallowed
    rcases hallowed with ⟨pair, hallowed⟩
    rw [not_not] at hallowed
    have hquotes : outcome.2.quotes = (d.quotes.getRate none pair).2 :=
      quotes_exchange_of_allowed hallowed none user
    refine ⟨pair, hallowed, ?_, ?_, ?_⟩
    · intro text hholds
      rw [hquotes]
      exact (d.quotes.getRate_of_holds pair hholds).right
    · intro hmissing
      rw [hquotes]
      exact (d.quotes.getRate_of_not_holds pair hmissing).right
    · intro o ho
      rcases quoted_of_exchange ho with ⟨pair', text, hallowed', hquote, hrate⟩
      cases hallowed.unique hallowed'
      exact ⟨text, d.quotes.supplies_of_getRate pair hquote, hrate⟩
  · generalize outcome = outcome at hends
    cases hends with
    | booked _hallowed _hquote _hrate hcompute hbook =>
        rcases compute_eq_ok hcompute with ⟨hdebit, hpos, _hproduct⟩
        have hplaces : amount.roundAmount.scale ≤ Decimal.balancePlaces :=
          Nat.le_trans (Decimal.scale_round_le _ _) (by decide)
        rw [← hdebit] at hplaces
        have hchanged := openWallet_ne_of_booked hwallet hpos hplaces hbook
        exact ⟨fun _ho => hchanged, fun _hchanged => ⟨_, rfl⟩⟩
    | _ =>
        constructor
        · intro ho
          rcases ho with ⟨o, ho⟩
          cases ho
        · intro hchanged
          exact absurd rfl hchanged

theorem exchange_effects_twice :
    let rates : ListedRates :=
      { ListedRates.empty with rates := Directory.insert ∅ ⟨.rub, .usd⟩ "0.0125" }
    let user := UserId.ofNat 0
    let ten : Decimal := ⟨false, 10, 0, by decide, by decide⟩
    let rate : Decimal := ⟨false, 125, 4, by decide, by decide⟩
    let credit : Decimal := ⟨false, 1250, 4, by decide, by decide⟩
    let held : Balances := ⟨⟨false, 1000, 0, by decide, by decide⟩, .zero, .zero⟩
    let left : Balances := ⟨⟨false, 990, 0, by decide, by decide⟩, credit, .zero⟩
    let left' : Balances :=
      ⟨⟨false, 980, 0, by decide, by decide⟩, ⟨false, 2500, 4, by decide, by decide⟩, .zero⟩
    let d := start (Ledger.empty.openWallet user held) {} rates.provider
    let d' := (d.exchange none user "rub" "USD" ten).2
    let d'' := (d'.exchange none user "Rub" "usd" ten).2
    (forall b, d.ledger.wallets.get? user = some b -> b.WithinBounds) ∧
      (forall b, d'.ledger.wallets.get? user = some b -> b.WithinBounds) ∧
      (d.exchange none user "rub" "USD" ten).1 = .ok ⟨credit, ten, rate, left⟩ ∧
      (d'.exchange none user "Rub" "usd" ten).1 = .ok ⟨credit, ten, rate, left'⟩ ∧
      d'.quotes.contacts = ⟨1, 0⟩ ∧ d''.quotes.contacts = ⟨1, 0⟩ ∧
      d'.ledger ≠ d.ledger ∧ d''.ledger ≠ d'.ledger ∧
      exists text, d'.quotes.Supplies ⟨.rub, .usd⟩ text ∧ parseRate text = .ok rate := by
  intro rates user ten rate credit held left left' d d' d''
  have hget : d.ledger.wallets.get? user = some held := by decide +kernel
  have hget' : d'.ledger.wallets.get? user = some left := by decide +kernel
  have hwallet : forall b, d.ledger.wallets.get? user = some b -> b.WithinBounds :=
    Ledger.forall_get?_of_eq_some hget (by decide)
  have hwallet' : forall b, d'.ledger.wallets.get? user = some b -> b.WithinBounds :=
    Ledger.forall_get?_of_eq_some hget' (by decide)
  have hten : 0 < ten.value := by norm_num [ten, Decimal.value, Decimal.coefficient]
  have hallowed : Allowed "rub" "USD" ten ⟨.rub, .usd⟩ :=
    ⟨hten, by decide +kernel, by decide +kernel, by decide⟩
  have hallowed' : Allowed "Rub" "usd" ten ⟨.rub, .usd⟩ :=
    ⟨hten, by decide +kernel, by decide +kernel, by decide⟩
  have hmissing : forall text, ¬ d.quotes.cache.Holds d.quotes.clock ⟨.rub, .usd⟩ text := by
    intro text hholds
    rcases hholds with ⟨e, hget, _hquote, _hfresh⟩
    cases hget
  have hholds : d'.quotes.cache.Holds d'.quotes.clock ⟨.rub, .usd⟩ "0.0125" :=
    ⟨⟨.rate "0.0125", 300000⟩, by decide +kernel, rfl, by decide +kernel⟩
  rcases exchange_effects hwallet "rub" "USD" ten with ⟨_hrefused, hasked, hbooked⟩
  rcases exchange_effects hwallet' "Rub" "usd" ten with ⟨_hrefused', hasked', hbooked'⟩
  rcases hasked (fun h => refused_iff.mp h _ hallowed) with
    ⟨pair, hpair, _hcached, hcontact, _hrate⟩
  rcases hasked' (fun h => refused_iff.mp h _ hallowed') with
    ⟨pair', hpair', hcached', _hcontact', hrate'⟩
  cases hpair.unique hallowed
  cases hpair'.unique hallowed'
  have hfirst : (d.exchange none user "rub" "USD" ten).1 = .ok ⟨credit, ten, rate, left⟩ := by
    decide +kernel
  have hsecond : (d'.exchange none user "Rub" "usd" ten).1 = .ok ⟨credit, ten, rate, left'⟩ := by
    decide +kernel
  have hcontacts : d'.quotes.contacts = ⟨1, 0⟩ := hcontact hmissing
  exact ⟨hwallet, hwallet', hfirst, hsecond, hcontacts, (hcached' _ hholds).trans hcontacts,
    hbooked.mp ⟨_, hfirst⟩, hbooked'.mp ⟨_, hsecond⟩, hrate' _ hsecond⟩

end Desk

end CurrencyWallet
