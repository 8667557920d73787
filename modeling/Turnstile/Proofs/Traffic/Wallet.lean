import Turnstile.Proofs.Store.Laws
import Turnstile.Proofs.Traffic.Basic

/-!
# Wallets under traffic

What a flight that is paid for from a wallet owes is what was granted to it and is not yet
reconciled, and what its first settlement said that it cost.  Whatever the order of the steps,
each of them charges the spender of its flight with the change of what the flight owes
(`Flight.Charged`), so balance and token counters are at every point what they were at first less
what the flights owe.

* `Flight.act_charged` — one step of one flight;
* `Traffic.run_conserves_wallets` — every run.
-/

set_option autoImplicit false

namespace Turnstile

open StoreAdmin (books)

namespace Flight

variable {σ : Type} [UserStore σ] [StoreAdmin σ]

/-- What the request cost, by its first settlement. -/
def cost (f : Flight) : Int :=
  match f.first with
  | some ⟨.succeeded cost, _⟩ => cost
  | _ => 0

/-- What the spender of the flight has been charged for it. -/
def owed (f : Flight) : Int := f.unreconciled + f.cost

/-- The charges that a step makes stay within signed 64-bit words. -/
def Exact (f : Flight) (s : Quota.State σ) : Action → Prop
  | .settle (.succeeded cost) =>
    f.ctx.settled = false → (books s.store).Fits f.ctx.spender (cost - f.ctx.reserved)
  | .work k => ∀ who amount, f.pending[k]? = some (.refundWallet who amount) →
    (books s.store).Fits who (-amount)
  | _ => True

/-- What is always true of a flight that is paid for from a wallet. -/
structure OnWallet (config : QuotaConfig) (f : Flight) : Prop where
  wallet : Quota.usesSubscription config f.ctx = false
  early : f.stage ≠ .done → f.first = none ∧ f.granted = 0
  planned : ∀ p, f.stage = .planned p → 0 ≤ p.amount
  unsettled : f.first = none →
    f.ctx.settled = false ∧ f.ctx.reserved = f.granted ∧ f.pending = []
  settled : f.first ≠ none → f.ctx.settled = true
  pending : f.pending = [] ∨ ∃ r, f.first = some ⟨.failed, r⟩ ∧
    f.pending = [.refundWallet f.ctx.spender f.granted]

/-- A step of a flight charges its spender with the change of what the flight owes. -/
structure Charged (config : QuotaConfig) (f f' : Flight) (b b' : Books) : Prop where
  onWallet : f'.OnWallet config
  books : b' = b.charge f.ctx.spender (f'.owed - f.owed)

theorem owed_of_unsettled {f : Flight} (h : f.first = none) : f.owed = f.granted := by
  unfold owed unreconciled cost
  rw [h]
  exact Int.add_zero f.granted

/-- A step that changes neither the store nor what is owed. -/
theorem Charged.of_same {config : QuotaConfig} {f f' : Flight} {b b' : Books}
    (h : f'.OnWallet config) (howed : f'.owed = f.owed) (hb : b' = b) :
    Charged config f f' b b' := by
  refine ⟨h, ?_⟩
  rw [howed, Int.sub_self, Books.charge_zero, hb]

variable [LawfulStore σ] {config : QuotaConfig} {f : Flight} {s : Quota.State σ}
  {a : Int × String}

theorem OnWallet.done (h : f.OnWallet config) :
    OnWallet config { f with stage := .done } :=
  ⟨h.wallet, fun hne => absurd rfl hne, fun _ hp => (nomatch hp), h.unsettled, h.settled,
    h.pending⟩

theorem start_charged (h : f.OnWallet config)
    (ha : (books s.store).account f.ctx.user = some a) (now estimate : Int) :
    Charged config f (f.start config now estimate s).1 (books s.store)
      (books (f.start config now estimate s).2.store) := by
  unfold start
  split
  · exact .of_same h rfl rfl
  · exact .of_same h rfl rfl
  · rename_i hfresh
    have hstage : f.stage ≠ .done := by rw [hfresh]; exact nofun
    simp only [h.wallet, Bool.false_eq_true, if_false, LawfulStore.balance_eq, ha]
    split
    · exact .of_same h.done rfl rfl
    · rename_i p hp
      refine .of_same ⟨h.wallet, fun _ => h.early hstage, ?_, h.unsettled, h.settled, h.pending⟩
        rfl rfl
      intro q hq
      cases hq
      exact Quota.amount_nonneg_of_plan (Int.le_max_right estimate 0) hp

theorem finish_charged (h : f.OnWallet config)
    (ha : (books s.store).account f.ctx.user = some a) :
    Charged config f (f.finish s).1 (books s.store) (books (f.finish s).2.store) := by
  unfold finish
  split
  · exact .of_same h rfl rfl
  · exact .of_same h rfl rfl
  · rename_i p hplan
    have hstage : f.stage ≠ .done := by rw [hplan]; exact nofun
    obtain ⟨hfirst, hgranted⟩ := h.early hstage
    obtain ⟨hsettled, hreserved, hpending⟩ := h.unsettled hfirst
    rcases Quota.carryOut_cases ha (h.planned p hplan) with
      ⟨ctx', s', hok, hbare, hsame, htaken, -, hb⟩ |
      ⟨refusal, ctx', s', herror, hbare, hsame, hkept, hb⟩
    · rw [hok]
      refine ⟨⟨?_, fun hne => absurd rfl hne, fun _ hq => (nomatch hq), fun _ => ?_,
        fun hne => absurd hfirst hne, .inl hpending⟩, ?_⟩
      · exact (Quota.usesSubscription_of_bare config hbare).trans h.wallet
      · exact ⟨hsame.trans hsettled, htaken, hpending⟩
      · have howed : f.owed = 0 := (owed_of_unsettled hfirst).trans hgranted
        have howed' : owed { f with ctx := ctx', stage := .done, granted := p.amount } = p.amount :=
          owed_of_unsettled hfirst
        dsimp only
        rw [howed, howed', Int.sub_zero]
        exact hb
    · rw [herror]
      refine .of_same ⟨?_, fun hne => absurd rfl hne, fun _ hq => (nomatch hq), fun _ => ?_,
        fun hne => absurd hfirst hne, .inl hpending⟩ ?_ hb
      · exact (Quota.usesSubscription_of_bare config hbare).trans h.wallet
      · exact ⟨hsame.trans hsettled, hkept.trans hreserved, hpending⟩
      · rw [owed_of_unsettled hfirst]
        exact owed_of_unsettled hfirst

/-- The flight after its first settlement. -/
theorem OnWallet.noted (h : f.OnWallet config) {f' : Flight} (hctx : f'.ctx.bare = f.ctx.bare)
    (hsettled : f'.ctx.settled = true) (hstage : f'.stage = .done) (hfirst : f'.first ≠ none)
    (hpending : f'.pending = [] ∨ ∃ r, f'.first = some ⟨.failed, r⟩ ∧
      f'.pending = [.refundWallet f'.ctx.spender f'.granted]) : f'.OnWallet config :=
  ⟨(Quota.usesSubscription_of_bare config hctx).trans h.wallet, fun hne => absurd hstage hne,
    fun _ hp => (nomatch hstage.symm.trans hp), fun hne => absurd hne hfirst, fun _ => hsettled,
    hpending⟩

/-- The flight after a settlement. -/
theorem noted_charged (h : f.OnWallet config) (ha : (books s.store).account f.ctx.user = some a)
    {outcome : Outcome} (hexact : f.Exact s (.settle outcome)) {r : Except Refusal (Option Job)}
    {ctx : Context} {q : Quota.State σ}
    (hr : Gateway.settle config outcome f.ctx s = (r, ctx, q)) :
    Charged config f (f.noted outcome ctx r) (books s.store) (books q.store) := by
  cases hsettled : f.ctx.settled with
  | true =>
    have hfirst := first_ne_none (fun hne => (h.unsettled hne).1) hsettled
    rw [Gateway.settle_again config hsettled] at hr
    cases hr
    rw [noted_again hfirst]
    exact .of_same h.done rfl rfl
  | false =>
    have hfirst := first_eq_none h.settled hsettled
    obtain ⟨_, hreserved, hpending⟩ := h.unsettled hfirst
    have howed : f.owed = f.granted := owed_of_unsettled hfirst
    cases outcome with
    | failed =>
      rw [Gateway.settle_failed h.wallet hsettled] at hr
      unfold Quota.setAside at hr
      rw [hreserved] at hr
      cases hr
      unfold noted
      rw [hfirst, hpending]
      by_cases hzero : f.granted = 0
      · rw [if_pos hzero]
        refine .of_same (h.noted rfl rfl rfl nofun (.inl rfl)) ?_ rfl
        rw [howed, hzero]
        rfl
      · rw [if_neg hzero]
        refine .of_same (h.noted rfl rfl rfl nofun (.inr ⟨none, rfl, rfl⟩)) ?_ rfl
        rw [howed]
        exact Int.add_zero f.granted
    | succeeded cost =>
      obtain ⟨store, hc, hb⟩ := Gateway.settle_succeeded h.wallet hsettled ha (hexact hsettled)
      rw [hc] at hr
      cases hr
      unfold noted
      rw [hfirst, hpending]
      refine ⟨h.noted rfl rfl rfl nofun (.inl rfl), ?_⟩
      have hcost : (0 : Int) + cost - f.granted = cost - f.ctx.reserved := by
        rw [hreserved]
        omega
      rw [howed]
      exact hb.trans (congrArg (fun d => (books s.store).charge f.ctx.spender d) hcost.symm)

theorem settle_charged (h : f.OnWallet config)
    (ha : (books s.store).account f.ctx.user = some a) (outcome : Outcome)
    (hexact : f.Exact s (.settle outcome)) :
    Charged config f (f.settle config outcome s).1 (books s.store)
      (books (f.settle config outcome s).2.store) := by
  unfold settle
  split
  · exact .of_same h rfl rfl
  · exact noted_charged h ha hexact rfl
  · exact noted_charged h ha hexact rfl

theorem work_charged (h : f.OnWallet config)
    (ha : (books s.store).account f.ctx.user = some a) (k : Nat) (hexact : f.Exact s (.work k)) :
    Charged config f (f.work k s).1 (books s.store) (books (f.work k s).2.store) := by
  unfold work
  cases hjob : f.pending[k]? with
  | none => exact .of_same h rfl rfl
  | some job =>
    rcases h.pending with hnone | ⟨r, hfirst, hpending⟩
    · rw [hnone] at hjob
      cases hjob
    · obtain ⟨rfl, rfl⟩ := eq_of_pending hpending hjob
      have ha' : (books s.store).account f.ctx.spender.user = some a := ha
      have hempty : f.pending.eraseIdx 0 = [] := by rw [hpending]; rfl
      have hsettled : f.first ≠ none := by rw [hfirst]; exact nofun
      have howed : f.owed = f.granted := by
        unfold owed unreconciled cost
        rw [hfirst, hpending]
        exact Int.add_zero f.granted
      refine ⟨⟨h.wallet, fun hne => absurd (h.early hne).1 hsettled, h.planned,
        fun hne => absurd hne hsettled, h.settled, .inl hempty⟩, ?_⟩
      have hreturned : owed { f with pending := f.pending.eraseIdx 0 } = 0 := by
        unfold owed unreconciled cost
        dsimp only
        rw [hfirst, hempty]
        rfl
      show books (Quota.refundWallet f.ctx.spender f.granted s).store = _
      rw [hreturned, howed, Int.zero_sub]
      exact Quota.books_refundWallet ha' (hexact _ _ hjob)

/-- Every step charges the spender of its flight with the change of what the flight owes. -/
theorem act_charged (h : f.OnWallet config) (ha : (books s.store).account f.ctx.user = some a)
    (act : Action) (hexact : f.Exact s act) :
    Charged config f (f.act config s act).1 (books s.store)
      (books (f.act config s act).2.store) := by
  cases act with
  | start now estimate => exact start_charged h ha now estimate
  | finish => exact finish_charged h ha
  | settle outcome => exact settle_charged h ha outcome hexact
  | work k => exact work_charged h ha k hexact

end Flight

namespace Traffic

variable {σ : Type}

/-- A sum over the flights of some spenders. -/
def sumWhere (p : Spender → Prop) [DecidablePred p] (w : Flight → Int) (t : Traffic σ) : Int :=
  (t.flights.map fun f => if p f.ctx.spender then w f else 0).sum

/-- A sum over the flights of a user. -/
def sumBy (user : Int) (w : Flight → Int) (t : Traffic σ) : Int :=
  t.sumWhere (fun who => user = who.user) w

/-- A sum over the flights that count against a token. -/
def sumThrough (token : Int) (w : Flight → Int) (t : Traffic σ) : Int :=
  t.sumWhere (fun who => who.unlimited = false ∧ token = who.token) w

/-- Once every flight is settled and the background is idle, only the costs are owed. -/
theorem owed_of_idle {t : Traffic σ} (h : ∀ f ∈ t.flights, f.first.isSome ∧ f.pending = [])
    (p : Spender → Prop) [DecidablePred p] : t.sumWhere p Flight.owed = t.sumWhere p Flight.cost := by
  unfold sumWhere
  refine congrArg List.sum (List.map_congr_left fun f hf => ?_)
  obtain ⟨hfirst, hpending⟩ := h f hf
  have howed : f.owed = f.cost := by
    unfold Flight.owed Flight.unreconciled
    rw [hpending]
    split
    · rename_i hnone
      rw [hnone] at hfirst
      cases hfirst
    · exact Int.zero_add f.cost
    · exact Int.zero_add f.cost
  rw [howed]

theorem sumWhere_set {p : Spender → Prop} [DecidablePred p] (w : Flight → Int) {t : Traffic σ}
    {i : Nat} {f f' : Flight} (q : Quota.State σ) (hf : t.flights[i]? = some f)
    (hspender : f'.ctx.spender = f.ctx.spender) :
    sumWhere p w ⟨q, t.flights.set i f'⟩ =
      t.sumWhere p w + if p f.ctx.spender then w f' - w f else 0 := by
  unfold sumWhere
  rw [Run.sum_map_set _ f' hf, hspender]
  split
  · rfl
  · rw [Int.sub_zero]

variable [StoreAdmin σ]

/-- The books are what they were at first, less what the flights owe. -/
structure Balanced (config : QuotaConfig) (b : Books) (t : Traffic σ) : Prop where
  onWallet : ∀ f ∈ t.flights, f.OnWallet config
  known : ∀ f ∈ t.flights, (b.account f.ctx.user).isSome
  account : ∀ user, (books t.quota.store).account user =
    (b.account user).map fun a => (a.1 - t.sumBy user Flight.owed, a.2)
  remain : ∀ token, (books t.quota.store).remain token =
    (b.remain token).map fun n => n - t.sumThrough token Flight.owed

/-- The charges that a turn makes stay within signed 64-bit words. -/
def Exact (t : Traffic σ) (turn : Nat × Action) : Prop :=
  ∀ f, t.flights[turn.1]? = some f → f.Exact t.quota turn.2

/-- Before the first step nothing is owed. -/
theorem balanced_opened {config : QuotaConfig} {ctxs : List Context} {quota : Quota.State σ}
    (hfresh : ∀ ctx ∈ ctxs, ctx.reserved = 0 ∧ ctx.settled = false)
    (hwallet : ∀ ctx ∈ ctxs, Quota.usesSubscription config ctx = false)
    (hknown : ∀ ctx ∈ ctxs, ((books quota.store).account ctx.user).isSome) :
    Balanced config (books quota.store) (opened quota ctxs) := by
  have hzero : ∀ (p : Spender → Prop) [DecidablePred p],
      (opened quota ctxs).sumWhere p Flight.owed = 0 := by
    intro p _
    refine List.sum_eq_zero fun x hx => ?_
    obtain ⟨f, hf, rfl⟩ := List.mem_map.mp hx
    obtain ⟨ctx, _, rfl⟩ := List.mem_map.mp hf
    dsimp only
    split
    · rfl
    · rfl
  refine ⟨?_, ?_, fun user => ?_, fun token => ?_⟩
  · intro f hf
    obtain ⟨ctx, hctx, rfl⟩ := List.mem_map.mp hf
    obtain ⟨hreserved, hsettled⟩ := hfresh ctx hctx
    exact ⟨hwallet ctx hctx, fun _ => ⟨rfl, rfl⟩, fun _ hp => (nomatch hp),
      fun _ => ⟨hsettled, hreserved, rfl⟩, fun hne => absurd rfl hne, .inl rfl⟩
  · intro f hf
    obtain ⟨ctx, hctx, rfl⟩ := List.mem_map.mp hf
    exact hknown ctx hctx
  · unfold sumBy
    rw [hzero]
    show (books quota.store).account user = _
    cases (books quota.store).account user <;> simp
  · unfold sumThrough
    rw [hzero]
    show (books quota.store).remain token = _
    cases (books quota.store).remain token <;> simp

variable [UserStore σ] [LawfulStore σ] {config : QuotaConfig}

/-- A step of a flight keeps the balance, -/
theorem Balanced.act {b : Books} {t : Traffic σ} {i : Nat} {f : Flight} {act : Action}
    (h : t.Balanced config b) (hf : t.flights[i]? = some f) (hexact : f.Exact t.quota act) :
    Balanced config b
      ⟨(f.act config t.quota act).2, t.flights.set i (f.act config t.quota act).1⟩ := by
  have hmem : f ∈ t.flights := List.mem_of_getElem? hf
  obtain ⟨a₀, ha₀⟩ := Option.isSome_iff_exists.mp (h.known f hmem)
  have ha : (books t.quota.store).account f.ctx.user =
      some (a₀.1 - t.sumBy f.ctx.user Flight.owed, a₀.2) := by
    rw [h.account, ha₀]
    rfl
  have hcharged := Flight.act_charged (h.onWallet f hmem) ha act hexact
  have hspender := Context.spender_of_bare (Flight.bare_act config f t.quota act)
  generalize f.act config t.quota act = after at hcharged hspender
  refine ⟨?_, ?_, fun user => ?_, fun token => ?_⟩
  · intro g hg
    rcases List.mem_or_eq_of_mem_set hg with hg | rfl
    · exact h.onWallet g hg
    · exact hcharged.onWallet
  · intro g hg
    rcases List.mem_or_eq_of_mem_set hg with hg | rfl
    · exact h.known g hg
    · rw [show after.1.ctx.user = f.ctx.user from congrArg Spender.user hspender]
      exact h.known f hmem
  · unfold sumBy
    dsimp only
    rw [sumWhere_set Flight.owed after.2 hf hspender, hcharged.books, Books.account_charge, h.account]
    split
    · rw [Option.map_map]
      congr 1
      funext a
      exact Prod.ext (by dsimp only [Function.comp, sumBy]; omega) rfl
    · rw [Int.add_zero]
      rfl
  · unfold sumThrough
    dsimp only
    rw [sumWhere_set Flight.owed after.2 hf hspender, hcharged.books, Books.remain_charge, h.remain]
    split
    · rw [Option.map_map]
      congr 1
      funext n
      dsimp only [Function.comp, sumThrough]
      omega
    · rw [Int.add_zero]
      rfl

/-- and so does every turn. -/
theorem Balanced.step {b : Books} {t : Traffic σ} {turn : Nat × Action}
    (h : t.Balanced config b) (hexact : t.Exact turn) :
    (t.step config turn).Balanced config b := by
  rcases t.step_cases config turn with hnone | ⟨f, hf, hstep⟩
  · rw [hnone]
    exact h
  · rw [hstep]
    exact h.act hf (hexact f hf)

/-- However the steps of requests that are paid for from wallets interleave: the balance of each
user is what it was at first less, over the requests of the user, what is reserved and not
reconciled and what the first settlement charged, and so for each token and the requests that
count against it.  Once all are settled and the background is idle, only the costs are missing. -/
theorem run_conserves_wallets {ctxs : List Context} {quota : Quota.State σ}
    {turns : List (Nat × Action)}
    (hfresh : ∀ ctx ∈ ctxs, ctx.reserved = 0 ∧ ctx.settled = false)
    (hwallet : ∀ ctx ∈ ctxs, Quota.usesSubscription config ctx = false)
    (hknown : ∀ ctx ∈ ctxs, ((books quota.store).account ctx.user).isSome)
    (hexact : Run.Along (step config) Exact turns (opened quota ctxs)) :
    let t := (opened quota ctxs).run config turns
    (∀ user balance text, (books quota.store).account user = some (balance, text) →
      (books t.quota.store).account user = some (balance - t.sumBy user Flight.owed, text)) ∧
    (∀ token remain, (books quota.store).remain token = some remain →
      (books t.quota.store).remain token = some (remain - t.sumThrough token Flight.owed)) ∧
    ((∀ f ∈ t.flights, f.first.isSome ∧ f.pending = []) →
      (∀ user balance text, (books quota.store).account user = some (balance, text) →
        (books t.quota.store).account user = some (balance - t.sumBy user Flight.cost, text)) ∧
      ∀ token remain, (books quota.store).remain token = some remain →
        (books t.quota.store).remain token =
          some (remain - t.sumThrough token Flight.cost)) := by
  intro t
  have hbalanced : t.Balanced config (books quota.store) :=
    Run.induction (fun _ _ h hx => h.step hx) turns (opened quota ctxs)
      (balanced_opened hfresh hwallet hknown) hexact
  have haccount : ∀ user balance text, (books quota.store).account user = some (balance, text) →
      (books t.quota.store).account user = some (balance - t.sumBy user Flight.owed, text) := by
    intro user balance text ha
    rw [hbalanced.account, ha]
    rfl
  have hremain : ∀ token remain, (books quota.store).remain token = some remain →
      (books t.quota.store).remain token = some (remain - t.sumThrough token Flight.owed) := by
    intro token remain hn
    rw [hbalanced.remain, hn]
    rfl
  refine ⟨haccount, hremain, fun hidle => ⟨?_, ?_⟩⟩
  · intro user balance text ha
    rw [haccount user balance text ha]
    unfold sumBy
    rw [owed_of_idle hidle]
  · intro token remain hn
    rw [hremain token remain hn]
    unfold sumThrough
    rw [owed_of_idle hidle]

/-- One wallet of 100 and one token of 80. -/
def raceQuota : Quota.State MemoryStore :=
  ⟨⟨[(7, ⟨"default", 100, ""⟩)], [(3, 80)]⟩, {}⟩

/-- Two requests of one user, made with one token. -/
def raceContexts : List Context := [{ user := 7, token := 3 }, { user := 7, token := 3 }]

/-- Both look at the wallet before either debits it. One fails, is settled once more, and is
refunded in the background. -/
def raceTurns : List (Nat × Action) :=
  [(0, .start 0 40), (1, .start 0 30), (1, .finish), (0, .finish), (0, .settle .failed),
    (1, .settle (.succeeded 35)), (0, .settle (.succeeded 9)), (0, .work 0)]

theorem race_exact : Run.Along (step {}) Exact raceTurns (opened raceQuota raceContexts) := by
  refine ⟨fun _ _ => trivial, fun _ _ => trivial, fun _ _ => trivial, fun _ _ => trivial,
    fun _ _ => trivial, ?_, ?_, ?_, trivial⟩
  · intro f hf
    cases hf
    intro _
    exact .of_known (by decide) rfl rfl (by decide) (by decide)
  · intro f hf
    cases hf
    intro hsettled
    cases hsettled
  · intro f hf
    cases hf
    intro who amount hjob
    cases hjob
    exact .of_known (by decide) rfl rfl (by decide) (by decide)

theorem run_conserves_wallets_race :
    let t := (opened raceQuota raceContexts).run {} raceTurns
    (books t.quota.store).account 7 = some (65, "") ∧ (books t.quota.store).remain 3 = some 45 := by
  have h := @run_conserves_wallets MemoryStore _ _ _ {} raceContexts raceQuota raceTurns
    (by decide) (by decide) (by decide) race_exact
  exact ⟨h.1 7 100 "" rfl, h.2.1 3 80 rfl⟩

end Traffic

end Turnstile
