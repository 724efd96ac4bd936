import CurrencyWallet.Proofs.Service.Effects
import CurrencyWallet.Proofs.Service.Steady

/-!
# Users do not see each other

All users share the books and the cache. As long as the provider does not change its mind,
the cache only ever says what the provider would say, and nobody but the owner touches a
wallet. So what a user is told, and what the user's wallet holds in the end, is settled by
that user's requests alone, whoever else is served in between.
-/

namespace CurrencyWallet

/-!
## Whose request it is
-/

namespace Request

def named? : Request -> Option String
  | register _ => none
  | balance user => some user
  | deposit user _ => some user
  | withdraw user _ => some user
  | rates => none
  | exchange user _ => some user

def IsBy (u : UserId) (r : Request) : Prop :=
  r = .rates ∨ exists text, r.named? = some text ∧ UserId.parse? text = some u

/-- A request that does not concern the wallet of this user. The id is for the user if one is
registered. -/
def IsByOther (u id : UserId) (r : Request) : Prop :=
  (forall user, r = .register user -> id ≠ u) ∧
    forall text, r.named? = some text -> UserId.parse? text ≠ some u

theorem named?_of_order? {r : Request} {o : Order} (h : r.order? = some o) :
    exists text, r.named? = some text ∧ UserId.parse? text = some o.user := by
  cases r with
  | register user =>
      cases h
  | balance user =>
      cases h
  | rates =>
      cases h
  | deposit user body =>
      rcases Option.bind_eq_some_iff.mp h with ⟨u, huser, h⟩
      rcases Option.bind_eq_some_iff.mp h with ⟨t, _hbody, h⟩
      rcases Option.bind_eq_some_iff.mp h with ⟨c, _hcode, h⟩
      cases h
      exact ⟨user, rfl, huser⟩
  | withdraw user body =>
      rcases Option.bind_eq_some_iff.mp h with ⟨u, huser, h⟩
      rcases Option.bind_eq_some_iff.mp h with ⟨t, _hbody, h⟩
      rcases Option.bind_eq_some_iff.mp h with ⟨c, _hcode, h⟩
      cases h
      exact ⟨user, rfl, huser⟩
  | exchange user body =>
      rcases Option.bind_eq_some_iff.mp h with ⟨u, huser, h⟩
      rcases Option.bind_eq_some_iff.mp h with ⟨t, _hbody, h⟩
      rcases Option.bind_eq_some_iff.mp h with ⟨source, _hsource, h⟩
      rcases Option.bind_eq_some_iff.mp h with ⟨target, _htarget, h⟩
      cases h
      exact ⟨user, rfl, huser⟩

end Request

/-- What happens at the desk, as one user sees it. -/
inductive Turn where
  | pause (milliseconds : Nat)
  | own (id : UserId) (r : Request)
  | other (id : UserId) (r : Request)

namespace Turn

def event : Turn -> DeskEvent
  | pause milliseconds => .pause milliseconds
  | own id r => .request id r
  | other id r => .request id r

def own? : Turn -> Option Request
  | pause _ => none
  | own _ r => some r
  | other _ _ => none

def IsSeenBy (u : UserId) : Turn -> Prop
  | pause _ => True
  | own _ r => r.IsBy u
  | other id r => r.IsByOther u id

end Turn

namespace Desk

def ownReplies (timeout : Nat) (d : Desk) : List Turn -> List (Except ServiceError Success)
  | [] => []
  | .pause milliseconds :: ts => (d.advance milliseconds).ownReplies timeout ts
  | .own id r :: ts =>
      let (reply, d) := d.handle timeout id r
      reply :: d.ownReplies timeout ts
  | .other id r :: ts => (d.handle timeout id r).2.ownReplies timeout ts

end Desk

/-!
## One request
-/

theorem Ledger.apply_congr {l l' : Ledger} {u : UserId}
    (h : l.wallets.get? u = l'.wallets.get? u) (m : Mutation) :
    (l.apply u m).1 = (l'.apply u m).1 ∧
      (l.apply u m).2.wallets.get? u = (l'.apply u m).2.wallets.get? u := by
  have houtcome : l.outcome u m = l'.outcome u m := by
    rw [outcome, outcome, balances, balances, h]
  rw [apply, apply, houtcome]
  cases l'.outcome u m with
  | error e =>
      exact ⟨rfl, h⟩
  | ok b =>
      refine ⟨rfl, ?_⟩
      rw [get?_openWallet_self, get?_openWallet_self]

namespace Desk

/-- The user is told the same and is left with the same wallet. -/
def Agree {α : Type} (u : UserId) (outcome outcome' : Except ServiceError α × Desk) : Prop :=
  outcome.1 = outcome'.1 ∧
    outcome.2.ledger.wallets.get? u = outcome'.2.ledger.wallets.get? u

theorem Agree.map {α β : Type} {u : UserId} {outcome outcome' : Except ServiceError α × Desk}
    (h : Agree u outcome outcome') (f : α -> β) :
    Agree u (outcome.1.map f, outcome.2) (outcome'.1.map f, outcome'.2) :=
  ⟨congrArg (Except.map f) h.left, h.right⟩

section Agree

variable {u : UserId} {d d' : Desk} (hwallet : d.ledger.wallets.get? u = d'.ledger.wallets.get? u)

include hwallet

theorem agree_apply (m : Mutation) : Agree u (d.apply u m) (d'.apply u m) := by
  rcases Ledger.apply_congr hwallet m with ⟨hresult, hafter⟩
  exact ⟨congrArg (Except.mapError ServiceError.ledger) hresult, hafter⟩

theorem agree_allowed (f : Currency -> Mutation) (code : String) (amount : Decimal) :
    Agree u
      (match allowedCurrency code amount with
        | .ok c => d.apply u (f c)
        | .error e => (.error e, d))
      (match allowedCurrency code amount with
        | .ok c => d'.apply u (f c)
        | .error e => (.error e, d')) := by
  cases allowedCurrency code amount with
  | error e =>
      exact ⟨rfl, hwallet⟩
  | ok c =>
      exact agree_apply hwallet (f c)

variable {timeout : Nat} (hprovider : d.quotes.provider = d'.quotes.provider)
  (hsteady : d.quotes.Steady timeout) (hsteady' : d'.quotes.Steady timeout)

include hprovider hsteady hsteady'

theorem agree_getTable :
    Agree u (d.getTable (some (d.quotes.clock + timeout)))
      (d'.getTable (some (d'.quotes.clock + timeout))) :=
  ⟨hsteady.getTable_eq hsteady' hprovider, hwallet⟩

theorem agree_exchange (source target : String) (amount : Decimal) :
    Agree u (d.exchange (some (d.quotes.clock + timeout)) u source target amount)
      (d'.exchange (some (d'.quotes.clock + timeout)) u source target amount) := by
  rw [exchange, exchange]
  cases allowedPair source target amount with
  | error e =>
      exact ⟨rfl, hwallet⟩
  | ok pair =>
      have hquoted := hsteady.getRate_eq hsteady' hprovider pair
      dsimp only
      rw [quote, quote]
      generalize d.quotes.getRate (some (d.quotes.clock + timeout)) pair = quoted at hquoted ⊢
      generalize d'.quotes.getRate (some (d'.quotes.clock + timeout)) pair = quoted' at hquoted ⊢
      rcases quoted with ⟨quoted?, quotes⟩
      rcases quoted' with ⟨quoted'?, quotes'⟩
      cases hquoted
      cases quoted? with
      | error e =>
          exact ⟨rfl, hwallet⟩
      | ok quoted =>
          dsimp only
          cases priced amount quoted with
          | error e =>
              exact ⟨rfl, hwallet⟩
          | ok trade =>
              rcases trade with ⟨rate, c⟩
              have happly : Agree u
                  (apply { d with quotes := quotes } u
                    (.exchange pair.source pair.target c.debit c.credit))
                  (apply { d' with quotes := quotes' } u
                    (.exchange pair.source pair.target c.debit c.credit)) :=
                agree_apply hwallet _
              exact happly.map (fun b => (⟨c.credit, c.debit, rate, b⟩ : ExchangeOutcome))

/-- What a user is told depends on the user's wallet and on the provider. -/
theorem agree_handle {r : Request} (hby : r.IsBy u) (id id' : UserId) :
    Agree u (d.handle timeout id r) (d'.handle timeout id' r) := by
  rcases hby with rfl | ⟨text, hnamed, huser⟩
  · exact (agree_getTable hwallet hprovider hsteady hsteady').map Success.rates
  · have hparse : parseUser text = .ok u := by
      rw [parseUser, huser]
    cases r with
    | register user =>
        cases hnamed
    | rates =>
        cases hnamed
    | balance user =>
        cases hnamed
        rw [handle, handle, answer, answer, hparse]
        refine ⟨?_, hwallet⟩
        dsimp only
        rw [balances, balances, Ledger.balances, Ledger.balances, hwallet]
    | deposit user body =>
        cases hnamed
        rw [handle, handle, answer, answer, readTransaction, hparse]
        cases body.validate with
        | error e =>
            exact ⟨rfl, hwallet⟩
        | ok t =>
            exact (agree_allowed hwallet (fun c => .deposit c t.amount) t.currency t.amount).map
              Success.deposited
    | withdraw user body =>
        cases hnamed
        rw [handle, handle, answer, answer, readTransaction, hparse]
        cases body.validate with
        | error e =>
            exact ⟨rfl, hwallet⟩
        | ok t =>
            exact (agree_allowed hwallet (fun c => .withdraw c t.amount) t.currency t.amount).map
              Success.withdrawn
    | exchange user body =>
        cases hnamed
        rw [handle, handle, answer, answer, readExchange, hparse]
        cases body.validate with
        | error e =>
            exact ⟨rfl, hwallet⟩
        | ok t =>
            exact (agree_exchange hwallet hprovider hsteady hsteady' t.source t.target t.amount).map
              (fun o => Success.exchanged o.exchangedAmount o.newBalance)

end Agree

/-!
## Anybody's request
-/

section Quotes

variable (d : Desk) (deadline : Option Nat)

theorem quotes_allowed (user : UserId) (f : Currency -> Mutation) (code : String)
    (amount : Decimal) :
    (match allowedCurrency code amount with
      | .ok c => d.apply user (f c)
      | .error e => (.error e, d)).2.quotes = d.quotes := by
  cases allowedCurrency code amount with
  | error e =>
      rfl
  | ok c =>
      rfl

theorem quotes_exchange (user : UserId) (source target : String) (amount : Decimal) :
    (d.exchange deadline user source target amount).2.quotes = d.quotes ∨
      exists pair, (d.exchange deadline user source target amount).2.quotes =
        (d.quotes.ask deadline (.rate pair)).2 := by
  cases hallowed : allowedPair source target amount with
  | error e =>
      left
      rw [exchange, hallowed]
  | ok pair =>
      right
      exact ⟨pair, quotes_exchange_of_allowed (allowedPair_eq_ok_iff.mp hallowed) deadline user⟩

theorem quotes_answer (id : UserId) (r : Request) :
    (d.answer deadline id r).2.quotes = d.quotes ∨
      exists k, (d.answer deadline id r).2.quotes = (d.quotes.ask deadline k).2 := by
  cases r with
  | register user =>
      exact Or.inl rfl
  | balance user =>
      left
      rw [answer]
      cases parseUser user with
      | error e =>
          rfl
      | ok user' =>
          rfl
  | deposit user body =>
      left
      rw [answer]
      cases readTransaction user body with
      | error e =>
          rfl
      | ok order =>
          exact d.quotes_allowed _ (fun c => .deposit c _) _ _
  | withdraw user body =>
      left
      rw [answer]
      cases readTransaction user body with
      | error e =>
          rfl
      | ok order =>
          exact d.quotes_allowed _ (fun c => .withdraw c _) _ _
  | rates =>
      exact Or.inr ⟨.table, rfl⟩
  | exchange user body =>
      rw [answer]
      cases readExchange user body with
      | error e =>
          exact Or.inl rfl
      | ok order =>
          rcases d.quotes_exchange deadline order.1 order.2.source order.2.target order.2.amount
            with hkept | ⟨pair, hasked⟩
          · exact Or.inl hkept
          · exact Or.inr ⟨.rate pair, hasked⟩

end Quotes

variable {timeout : Nat} {u : UserId}

theorem steady_handle {d : Desk} (h : d.quotes.Steady timeout) (id : UserId) (r : Request) :
    (d.handle timeout id r).2.quotes.provider = d.quotes.provider ∧
      (d.handle timeout id r).2.quotes.Steady timeout := by
  rcases d.quotes_answer (some (d.quotes.clock + timeout)) id r with hkept | ⟨k, hasked⟩
  · rw [handle, hkept]
    exact ⟨rfl, h⟩
  · rw [handle, hasked]
    exact (h.ask k).right

theorem get?_handle_of_other (d : Desk) {id : UserId} {r : Request} (hother : r.IsByOther u id) :
    (d.handle timeout id r).2.ledger.wallets.get? u = d.ledger.wallets.get? u := by
  have heffect := d.handle_effect timeout id r
  generalize (d.handle timeout id r).1 = reply at heffect
  generalize (d.handle timeout id r).2.ledger = after at heffect ⊢
  cases heffect with
  | refused =>
      rfl
  | shown =>
      rfl
  | listed =>
      rfl
  | registered =>
      exact Ledger.get?_openWallet_of_ne _ _ _ (hother.left _ rfl).symm
  | carried horder _hcarried _hbooked =>
      rcases Request.named?_of_order? horder with ⟨text, hnamed, huser⟩
      have hne : u ≠ _ := fun heq => hother.right text hnamed (heq ▸ huser)
      exact Ledger.get?_openWallet_of_ne _ _ _ hne

/-!
## Whole runs
-/

/-- Two desks between which this user cannot tell a difference. -/
structure SameFor (timeout : Nat) (u : UserId) (d d' : Desk) : Prop where
  wallet_eq : d.ledger.wallets.get? u = d'.ledger.wallets.get? u
  provider_eq : d.quotes.provider = d'.quotes.provider
  steady : d.quotes.Steady timeout
  steady' : d'.quotes.Steady timeout

section SameFor

variable {d d' : Desk} (h : SameFor timeout u d d')

include h

theorem SameFor.pause (milliseconds : Nat) : SameFor timeout u (d.advance milliseconds) d' where
  wallet_eq := h.wallet_eq
  provider_eq := h.provider_eq
  steady := h.steady.later (Quotes.later_clock _ (Nat.le_add_right _ _))
  steady' := h.steady'

theorem SameFor.other {id : UserId} {r : Request} (hother : r.IsByOther u id) :
    SameFor timeout u (d.handle timeout id r).2 d' where
  wallet_eq := (d.get?_handle_of_other hother).trans h.wallet_eq
  provider_eq := (steady_handle h.steady id r).left.trans h.provider_eq
  steady := (steady_handle h.steady id r).right
  steady' := h.steady'

theorem SameFor.own {r : Request} (hby : r.IsBy u) (id id' : UserId) :
    (d.handle timeout id r).1 = (d'.handle timeout id' r).1 ∧
      SameFor timeout u (d.handle timeout id r).2 (d'.handle timeout id' r).2 := by
  rcases agree_handle h.wallet_eq h.provider_eq h.steady h.steady' hby id id' with
    ⟨hreply, hwallet⟩
  rcases steady_handle h.steady id r with ⟨hprovider, hsteady⟩
  rcases steady_handle h.steady' id' r with ⟨hprovider', hsteady'⟩
  exact ⟨hreply, hwallet, hprovider.trans (h.provider_eq.trans hprovider'.symm), hsteady, hsteady'⟩

/-- A whole run tells the user as much as the user's own requests do, made one after the other
without a pause. -/
theorem SameFor.run {ts : List Turn} (hts : forall t, t ∈ ts -> t.IsSeenBy u) :
    let solo := (ts.filterMap Turn.own?).map (Turn.own u)
    d.ownReplies timeout ts = d'.ownReplies timeout solo ∧
      SameFor timeout u (d.run timeout (ts.map Turn.event)).2
        (d'.run timeout (solo.map Turn.event)).2 := by
  induction ts generalizing d d' with
  | nil =>
      exact ⟨rfl, h⟩
  | cons t ts ih =>
      have hhead := hts t List.mem_cons_self
      have htail : forall t', t' ∈ ts -> t'.IsSeenBy u :=
        fun t' ht' => hts t' (List.mem_cons_of_mem _ ht')
      -- Only an own request moves both desks. The second one waits for everything else.
      cases t with
      | pause milliseconds =>
          exact ih (h.pause milliseconds) htail
      | other id r =>
          exact ih (h.other hhead) htail
      | own id r =>
          rcases h.own hhead id u with ⟨hreply, hsame⟩
          rcases ih hsame htail with ⟨hreplies, hafter⟩
          exact ⟨congrArg₂ List.cons hreply hreplies, hafter⟩

end SameFor

/-- As long as the provider keeps to its answers, a user is told the same and is left with the
same wallet in any two runs in which the user makes the same requests, however many others are
served in between, whenever that is and whatever the caches are allowed to keep. In particular
this is so when nobody else is served. -/
theorem isolated (timeout : Nat) (provider : Provider) (policy policy' : CachePolicy)
    (l l' : Ledger) (u : UserId) (ts ts' : List Turn)
    (hwallet : l.wallets.get? u = l'.wallets.get? u)
    (hts : forall t, t ∈ ts -> t.IsSeenBy u) (hts' : forall t, t ∈ ts' -> t.IsSeenBy u)
    (hown : ts.filterMap Turn.own? = ts'.filterMap Turn.own?) :
    let d := start l policy provider
    let d' := start l' policy' provider
    d.ownReplies timeout ts = d'.ownReplies timeout ts' ∧
      (d.run timeout (ts.map Turn.event)).2.ledger.wallets.get? u =
        (d'.run timeout (ts'.map Turn.event)).2.ledger.wallets.get? u := by
  intro d d'
  have hsteady : d.quotes.Steady timeout := Quotes.steady_start timeout policy provider
  have hsteady' : d'.quotes.Steady timeout := Quotes.steady_start timeout policy' provider
  have hsame : SameFor timeout u d d' := ⟨hwallet, rfl, hsteady, hsteady'⟩
  have hself : SameFor timeout u d' d' := ⟨rfl, rfl, hsteady', hsteady'⟩
  rcases hsame.run hts with ⟨hreplies, hafter⟩
  rcases hself.run hts' with ⟨hreplies', hafter'⟩
  rw [hown] at hreplies hafter
  exact ⟨hreplies.trans hreplies'.symm, hafter.wallet_eq.trans hafter'.wallet_eq.symm⟩

theorem isolated_two_exchanges :
    let rates : ListedRates :=
      { ListedRates.empty with rates := Directory.insert ∅ ⟨.rub, .usd⟩ "0.0125", delay := 40 }
    let owner := "00000000-0000-0000-0000-000000000000"
    let stranger := "00000000-0000-0000-0000-000000000001"
    let u := UserId.ofNat 0
    let v := UserId.ofNat 1
    let held : Balances := ⟨⟨false, 1000, 0, by decide, by decide⟩, .zero, .zero⟩
    let credit : Decimal := ⟨false, 12500, 4, by decide, by decide⟩
    let left : Balances := ⟨⟨false, 900, 0, by decide, by decide⟩, credit, .zero⟩
    let l := (Ledger.empty.openWallet u held).openWallet v held
    let l' := Ledger.empty.openWallet u held
    let request : ExchangeRequest := ⟨some "rub", some "usd", some ⟨0x4059000000000000⟩⟩
    let own : Turn := .own u (.exchange owner request)
    let ts : List Turn := [.pause 100, .other v (.exchange stranger request), .pause 100, own]
    let d := start l {} rates.provider
    let d' := start l' {} rates.provider
    (l.wallets.get? u = l'.wallets.get? u ∧ (forall t, t ∈ ts -> t.IsSeenBy u) ∧
      ts.filterMap Turn.own? = [own].filterMap Turn.own?) ∧
      d'.ownReplies 5000 [own] = [.ok (.exchanged credit left)] ∧
      d.ownReplies 5000 ts = d'.ownReplies 5000 [own] ∧
      (d.run 5000 (ts.map Turn.event)).2.ledger.wallets.get? u =
        (d'.run 5000 ([own].map Turn.event)).2.ledger.wallets.get? u := by
  intro rates owner stranger u v held credit left l l' request own ts d d'
  have hwallet : l.wallets.get? u = l'.wallets.get? u := by decide +kernel
  have howner : UserId.parse? owner = some u := by decide +kernel
  have hstranger : UserId.parse? stranger ≠ some u := by decide +kernel
  have hown : own.IsSeenBy u := Or.inr ⟨owner, rfl, howner⟩
  have hother : (Turn.other v (.exchange stranger request)).IsSeenBy u := by
    constructor
    · intro user hregister
      cases hregister
    · intro text hnamed
      cases hnamed
      exact hstranger
  have hts : forall t, t ∈ ts -> t.IsSeenBy u := by
    intro t ht
    simp only [ts, List.mem_cons, List.not_mem_nil, or_false] at ht
    rcases ht with rfl | rfl | rfl | rfl
    · trivial
    · exact hother
    · trivial
    · exact hown
  have hsolo : forall t, t ∈ [own] -> t.IsSeenBy u := by
    intro t ht
    rw [List.mem_singleton.mp ht]
    exact hown
  have hrequests : ts.filterMap Turn.own? = [own].filterMap Turn.own? := rfl
  have hreplies : d'.ownReplies 5000 [own] = [.ok (.exchanged credit left)] := by decide +kernel
  refine ⟨⟨hwallet, hts, hrequests⟩, hreplies, ?_⟩
  dsimp only [d, d']
  exact isolated 5000 rates.provider {} {} l l' u ts [own] hwallet hts hsolo hrequests

end Desk

end CurrencyWallet
