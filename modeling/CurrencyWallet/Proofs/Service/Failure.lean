import CurrencyWallet.Proofs.Service.Contact
import CurrencyWallet.Proofs.Service.Interludes
import CurrencyWallet.Proofs.Service.Reliable

/-!
# After an exchange has failed for want of a rate

An exchange fails for want of a rate when the provider has none, or when the quoted text is no
rate. In the first case nothing is kept, and the next exchange of the pair contacts the provider
again. In the second case the text has been an answer to the cache, which keeps it as long as any
other. Until it expires every exchange of the pair fails in the same way, and only then is the
provider contacted again. In both cases somebody else may have fetched a quote of the pair in the
meantime, and then that one is used while it is fresh.
-/

namespace CurrencyWallet

namespace Desk

/-- An exchange of the pair contacts the provider, and goes by what the provider says. -/
structure Requotes (d : Desk) (pair : CurrencyPair) : Prop where
  contacts_eq : forall user source target amount, Allowed source target amount pair ->
    (d.exchange none user source target amount).2.quotes.contacts =
      d.quotes.contacts.add (.rate pair)
  quote_eq : (d.quote none pair).1 = (d.quotes.provider.rate pair).mapError .rate
  failed : forall e, d.quotes.provider.rate pair = .error e ->
    forall user source target amount, Allowed source target amount pair ->
      (d.exchange none user source target amount).1 = .error (.rate e)
  rate_eq : forall text, d.quotes.provider.rate pair = .ok text ->
    forall user source target amount o, Allowed source target amount pair ->
      (d.exchange none user source target amount).1 = .ok o -> parseRate text = .ok o.rate

/-- An exchange of the pair fails because of the text, and the provider is not contacted. -/
structure Repeats (d : Desk) (pair : CurrencyPair) (text : String) : Prop where
  contacts_eq : forall user source target amount, Allowed source target amount pair ->
    (d.exchange none user source target amount).2.quotes.contacts = d.quotes.contacts
  refused : forall user source target amount, Allowed source target amount pair ->
    (d.exchange none user source target amount).1 = .error (.rate (.invalidRate text))

section Next

variable {d : Desk} {pair : CurrencyPair}

theorem requotes_of_answer?_eq_none
    (h : d.quotes.cache.answer? d.quotes.clock (.rate pair) = none) : d.Requotes pair := by
  have hmissing : forall text, ¬ d.quotes.cache.Holds d.quotes.clock pair text := by
    intro text hholds
    rw [QuoteCache.answer?_rate_eq_some_iff.mpr ⟨text, hholds, rfl⟩] at h
    cases h
  rcases d.quotes.getRate_of_not_holds pair hmissing with ⟨hquote, hcontacts⟩
  refine ⟨?_, hquote, ?_, ?_⟩
  · intro user source target amount hallowed
    rw [quotes_exchange_of_allowed hallowed]
    exact hcontacts
  · intro e hprovider user source target amount hallowed
    rw [hprovider] at hquote
    rw [exchange_of_unquoted hallowed user hquote]
  · intro text hprovider user source target amount o hallowed ho
    rcases quoted_of_exchange ho with ⟨pair', text', hallowed', hquote', hrate⟩
    cases hallowed.unique hallowed'
    rw [hprovider] at hquote
    cases hquote.symm.trans hquote'
    exact hrate

theorem repeats_of_answer?_eq_some {text : String}
    (h : d.quotes.cache.answer? d.quotes.clock (.rate pair) = some (.rate pair text))
    (hread : parseRate text = .error (.invalidRate text)) : d.Repeats pair text := by
  rcases QuoteCache.answer?_rate_eq_some_iff.mp h with ⟨text', hholds, heq⟩
  cases heq
  rcases d.quotes.getRate_of_holds pair hholds with ⟨hquote, hcontacts⟩
  constructor
  · intro user source target amount hallowed
    rw [quotes_exchange_of_allowed hallowed]
    exact hcontacts
  · intro user source target amount hallowed
    rw [exchange_of_unreadable hallowed hquote user hread]

end Next

theorem not_isRefusal_rate (e : RateError) : ¬ (ServiceError.rate e).IsRefusal := by
  cases e with
  | _ =>
      intro h
      rcases h with h | h <;> cases h

/-- A quote of the pair has been fetched in the meantime and is still fresh. -/
def Refetched (d : Desk) (is : List Interlude) (pair : CurrencyPair) : Prop :=
  exists f, f ∈ d.lookups is ∧ f.Fetched (.rate pair) ∧
    (d.after is).quotes.clock < f.answeredAt + d.quotes.cache.policy.ttl

theorem not_refetched {d : Desk} {is : List Interlude} {pair : CurrencyPair}
    (h : forall f, f ∈ d.lookups is -> f.contacted = false) : ¬ d.Refetched is pair := by
  intro hrefetched
  rcases hrefetched with ⟨f, hf, hfetched, _hfresh⟩
  exact Bool.false_ne_true ((h f hf).symm.trans hfetched.right.left)

section Failed

variable {policy : CachePolicy} {seen : List Lookup} {d : Desk} {pair : CurrencyPair}

theorem requotes_after (h : Quotes.Remembers policy seen d.quotes) {is : List Interlude}
    (hseen : forall g, g ∈ seen -> g.Fetched (.rate pair) ->
      g.answeredAt + policy.ttl ≤ (d.after is).quotes.clock)
    (hmeanwhile : ¬ d.Refetched is pair) : (d.after is).Requotes pair := by
  apply requotes_of_answer?_eq_none
  apply answer?_after_of_stale h is hseen
  intro g hg hfetched
  rw [← Nat.not_lt]
  intro hfresh
  rw [← h.policy_eq] at hfresh
  exact hmeanwhile ⟨g, hg, hfetched, hfresh⟩

/-- Where the provider has failed to answer, nothing that was fetched before is fresh. -/
theorem stale_of_getRate_error (h : Quotes.Remembers policy seen d.quotes)
    {deadline : Option Nat} {e : RateError}
    (hfailed : (d.quotes.getRate deadline pair).1 = .error (.rate e)) {g : Lookup}
    (hg : g ∈ seen ++ [d.quotes.lookUpBy deadline (.rate pair)])
    (hfetched : g.Fetched (.rate pair)) : g.answeredAt + policy.ttl ≤ d.quotes.clock := by
  have hmissing := (Quotes.getRate_eq_error_rate hfailed).left
  rw [← Nat.not_lt]
  intro hfresh
  rcases List.mem_append.mp hg with hg | hg
  · rcases (h.exists_answer?_iff (.rate pair)).mpr ⟨g, hg, hfetched, hfresh⟩ with ⟨v, hv⟩
    rw [hmissing] at hv
    cases hv
  · rw [List.mem_singleton.mp hg] at hfetched
    rcases hfetched.right.right with ⟨v, hv⟩
    change (d.quotes.getRate deadline pair).1.map (Quote.rate pair) = .ok v at hv
    rw [hfailed] at hv
    cases hv

end Failed

/-- After an exchange that has failed for want of a rate the next one contacts the provider again
if the provider had given no quote, however long that is ago. A quote that was no rate is repeated
until its lifetime is over, which no question prolongs, and only then is the provider contacted
again. A quote of the pair that somebody else has fetched in the meantime is used instead while
it is fresh. -/
theorem exchange_after_failure (ledger : Ledger) (policy : CachePolicy) (provider : Provider)
    (is : List Interlude) (timeout : Option Nat) (user : UserId) (source target : String)
    (amount : Decimal) (e : RateError) :
    let s := start ledger policy provider
    let d := s.after is
    let failed := Interlude.exchange timeout user source target amount
    let d' := d.pass failed
    (d.exchange (d.deadline timeout) user source target amount).1 = .error (.rate e) ->
    exists pair, Allowed source target amount pair ∧
      ((d.quotes.provider.rate pair = .error e ∧
          d'.quotes.contacts = d.quotes.contacts.add (.rate pair) ∧
          forall later, ¬ d'.Refetched later pair -> (d'.after later).Requotes pair) ∨
        exists f text, LastWith (Lookup.Fetched (.rate pair)) (s.lookups (is ++ [failed])) f ∧
          f.answer = .ok (.rate pair text) ∧ e = .invalidRate text ∧
          forall later,
            ((d'.after later).quotes.clock < f.answeredAt + policy.ttl ->
              (d'.after later).Repeats pair text) ∧
            (f.answeredAt + policy.ttl ≤ (d'.after later).quotes.clock ->
              ¬ d'.Refetched later pair -> (d'.after later).Requotes pair)) := by
  intro s d failed d' hfailed
  have hremembers : Quotes.Remembers policy (s.lookups is) d.quotes :=
    remembers_lookups ledger policy provider is
  have hremembers' : Quotes.Remembers policy (s.lookups (is ++ [failed])) d'.quotes := by
    rw [lookups_snoc]
    exact remembers_pass hremembers failed
  have hclock (later : List Interlude) : d.quotes.clock ≤ (d'.after later).quotes.clock :=
    Nat.le_trans (d.clock_le_pass failed) (d'.clock_le_after later)
  have hends := d.exchange_ends (d.deadline timeout) user source target amount
  have hasked {pair : CurrencyPair} (hallowed : Allowed source target amount pair) :
      s.lookups (is ++ [failed]) =
        s.lookups is ++ [d.quotes.lookUpBy (d.deadline timeout) (.rate pair)] := by
    rw [lookups_snoc, asked_exchange _ hallowed]
  generalize d.exchange (d.deadline timeout) user source target amount = outcome at hends hfailed
  cases hends with
  | refused hrefused =>
      cases hfailed
      exact absurd (failsOnly_allowedPair _ _ _ _ hrefused) (not_isRefusal_rate e)
  | unquoted hallowed hquote =>
      cases hfailed
      rename_i pair
      rcases Quotes.getRate_eq_error_rate hquote with ⟨_hmissing, hprovider, hcontacts⟩
      rw [← quotes_exchange_of_allowed hallowed (d.deadline timeout) user] at hcontacts
      refine ⟨pair, hallowed, Or.inl ⟨hprovider, hcontacts, ?_⟩⟩
      intro later hmeanwhile
      apply requotes_after hremembers' ?_ hmeanwhile
      intro g hg hfetched
      rw [hasked hallowed] at hg
      exact Nat.le_trans (stale_of_getRate_error hremembers hquote hg hfetched) (hclock later)
  | unreadable hallowed hquote hread =>
      cases hfailed
      rename_i pair text
      cases parseRate_eq_error hread
      rcases hremembers.exists_last_of_ask ((d.quotes.getRate_eq_ok_iff pair).mp hquote) with
        ⟨f, hlast, hf⟩
      rw [← hasked hallowed] at hlast
      refine ⟨pair, hallowed, Or.inr ⟨f, text, hlast, hf, rfl, ?_⟩⟩
      intro later
      constructor
      · intro hfresh
        exact repeats_of_answer?_eq_some (answer?_after_of_fresh hremembers' hlast hf later hfresh)
          hread
      · intro hstale hmeanwhile
        apply requotes_after hremembers' ?_ hmeanwhile
        intro g hg hfetched
        have hle := hremembers'.answeredAt_le_last hlast hg hfetched
        exact Nat.le_trans (Nat.add_le_add_right hle _) hstale
  | uncomputed _hallowed _hquote _hrate hcompute =>
      cases hfailed
      exact absurd (failsOnly_compute _ _ _ hcompute) (not_isRefusal_rate e)
  | unbooked _hallowed _hquote _hrate _hcompute _hbook =>
      cases hfailed
  | booked _hallowed _hquote _hrate _hcompute _hbook =>
      cases hfailed

theorem exchange_after_failure_five_minutes :
    let bad : ListedRates :=
      { ListedRates.empty with rates := Directory.insert ∅ ⟨.rub, .usd⟩ "not-a-number" }
    let good : ListedRates := { ListedRates.empty with
      rates := (Directory.insert ∅ ⟨.rub, .usd⟩ "0.0125").insert ⟨.rub, .eur⟩ "0.0125" }
    let user := UserId.ofNat 0
    let ten : Decimal := ⟨false, 10, 0, by decide, by decide⟩
    let s := start (Ledger.empty.openWallet user ⟨ten, .zero, .zero⟩) {} bad.provider
    let d := s.after [.rate none "RUB" "USD", .pause 200000]
    let usd := Interlude.exchange none user "RUB" "USD" ten
    let eur := Interlude.exchange none user "RUB" "EUR" ten
    let d' := (d.pass eur).after [.provider good.provider, .rate none "RUB" "EUR"]
    (d.exchange (d.deadline none) user "RUB" "USD" ten).1 =
        .error (.rate (.invalidRate "not-a-number")) ∧
      (d.exchange (d.deadline none) user "RUB" "EUR" ten).1 =
        .error (.rate (.notAvailable ⟨.rub, .eur⟩)) ∧
      ((d.pass eur).after [.provider good.provider]).Requotes ⟨.rub, .eur⟩ ∧
      (d'.exchange none user "RUB" "EUR" ten).2.quotes.contacts = d'.quotes.contacts ∧
      ((d.pass usd).after [.provider good.provider, .pause 50000, usd, .rate none "RUB" "USD",
        .pause 49999]).Repeats ⟨.rub, .usd⟩ "not-a-number" ∧
      ((d.pass usd).after [.provider good.provider, .pause 50000, usd, .rate none "RUB" "USD",
        .pause 50000]).Requotes ⟨.rub, .usd⟩ := by
  intro bad good user ten s d usd eur d'
  have husd : (d.exchange (d.deadline none) user "RUB" "USD" ten).1 =
      .error (.rate (.invalidRate "not-a-number")) := by decide +kernel
  have heur : (d.exchange (d.deadline none) user "RUB" "EUR" ten).1 =
      .error (.rate (.notAvailable ⟨.rub, .eur⟩)) := by decide +kernel
  have hten : 0 < ten.value := by norm_num [ten, Decimal.value, Decimal.coefficient]
  have hallowed : Allowed "RUB" "USD" ten ⟨.rub, .usd⟩ :=
    ⟨hten, by decide +kernel, by decide +kernel, by decide⟩
  have hallowed' : Allowed "RUB" "EUR" ten ⟨.rub, .eur⟩ :=
    ⟨hten, by decide +kernel, by decide +kernel, by decide⟩
  have hquote : d.quotes.provider.rate ⟨.rub, .usd⟩ = .ok "not-a-number" := by decide +kernel
  have hfetches : forall f, f ∈ s.lookups [.rate none "RUB" "USD", .pause 200000, usd] ->
      f.contacted = true -> f.answeredAt = 0 := by decide +kernel
  refine ⟨husd, heur, ?_⟩
  rcases exchange_after_failure _ _ _ _ none user "RUB" "EUR" ten _ heur with
    ⟨pair', hpair', ⟨_hfailed', _hcontact', hnext'⟩ | ⟨_f, _text, _hlast, _hf, htext', _hnext⟩⟩
  · cases hpair'.unique hallowed'
    rcases exchange_after_failure _ _ _ _ none user "RUB" "USD" ten _ husd with
      ⟨pair, hpair, ⟨hfailed, _hcontact, _hnext⟩ | ⟨f, text, hlast, hf, htext, hnext⟩⟩
    · cases hpair.unique hallowed
      rw [hquote] at hfailed
      cases hfailed
    · cases hpair.unique hallowed
      cases htext
      have htime : f.answeredAt = 0 := hfetches f hlast.mem.left hlast.mem.right.right.left
      refine ⟨hnext' _ ?_, by decide +kernel, (hnext _).left ?_, (hnext _).right ?_ ?_⟩
      · exact not_refetched (by decide +kernel)
      · rw [htime]
        decide +kernel
      · rw [htime]
        decide +kernel
      · exact not_refetched (by decide +kernel)
  · cases htext'

/-- The provider has corrected its quote, and nobody asks it. -/
theorem exchange_repeats_failure :
    let bad : ListedRates :=
      { ListedRates.empty with rates := Directory.insert ∅ ⟨.rub, .usd⟩ "not-a-number" }
    let good : ListedRates :=
      { ListedRates.empty with rates := Directory.insert ∅ ⟨.rub, .usd⟩ "0.0125" }
    let user := UserId.ofNat 0
    let ten : Decimal := ⟨false, 10, 0, by decide, by decide⟩
    let d := start (Ledger.empty.openWallet user ⟨ten, .zero, .zero⟩) {} bad.provider
    let first := d.exchange none user "RUB" "USD" ten
    let corrected := first.2.setProvider good.provider
    let second := corrected.exchange none user "RUB" "USD" ten
    allowedPair "RUB" "USD" ten = .ok ⟨.rub, .usd⟩ ∧
      first.1 = .error (.rate (.invalidRate "not-a-number")) ∧
      corrected.quotes.provider.rate ⟨.rub, .usd⟩ = .ok "0.0125" ∧
      second.1 = .error (.rate (.invalidRate "not-a-number")) ∧
      second.2.quotes.contacts = first.2.quotes.contacts := by
  decide +kernel

end Desk

end CurrencyWallet
