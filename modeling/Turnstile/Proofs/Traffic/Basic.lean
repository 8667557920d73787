import Turnstile.Proofs.Admission.Charges
import Turnstile.Proofs.Run

/-!
# Requests in flight over one store

Any number of requests share a store.  A flight is one request with the steps that it can still
take: it reserves once, where looking at the wallet and debiting it are two steps between which
others may work; it is settled any number of times; and the refunds that a settlement leaves to
the background are carried out whenever their turn comes.  `Traffic.step` gives one flight its
turn, and a run is any list of such steps: a step that a flight cannot take changes nothing.

A flight also remembers what has become of it (what was granted, from where, and the first
settlement), so that what it owes can be said without looking at the store.

* `Flight.finish_start` — without others in between, the two steps are `Quota.reserve`;
* `Traffic.bare_run` — the flights of a run are those with which it began.
-/

set_option autoImplicit false

namespace Turnstile

open Subscription (Selection)

/-- How far a flight has come. -/
inductive Stage where
  /-- Nothing has been reserved yet. -/
  | fresh
  /-- The wallet has been looked at, and the plan is still to be carried out. -/
  | planned (p : Quota.Plan)
  /-- There is nothing left to do but to settle. -/
  | done

/-- What a settlement was told, and why it was refused if it was. -/
structure Settlement where
  outcome : Outcome
  refusal : Option Refusal

/-- A request in flight. -/
structure Flight where
  ctx : Context
  stage : Stage := .fresh
  /-- What was reserved for it. -/
  granted : Int := 0
  /-- The entitlement from which it was reserved. -/
  picked : Option Selection := none
  first : Option Settlement := none
  /-- Work for it that waits in the background. -/
  pending : List Job := []

/-- The steps of a flight. -/
inductive Action where
  /-- Reserves from an entitlement, or looks at the wallet. -/
  | start (now estimate : Int)
  /-- Carries out what the look at the wallet led to. -/
  | finish
  | settle (outcome : Outcome)
  /-- Does the `k`th piece of the work in the background. -/
  | work (k : Nat)

namespace Flight

variable {σ : Type} [UserStore σ]

/-- The first step of a reservation, on the wallet only a look at it. -/
def start (config : QuotaConfig) (now estimate : Int) (f : Flight) (s : Quota.State σ) :
    Flight × Quota.State σ :=
  match f.stage with
  | .planned _ => (f, s)
  | .done => (f, s)
  | .fresh =>
    let amount := max estimate 0
    if Quota.usesSubscription config f.ctx then
      match Quota.reserveFromSubscription now amount f.ctx s with
      | (.ok (), ctx, s) =>
        ({ f with ctx := ctx, stage := .done, granted := amount, picked := ctx.selection }, s)
      | (.error _, ctx, s) => ({ f with ctx := ctx, stage := .done }, s)
    else match UserStore.balance f.ctx.user s.store with
      | (.error _, store) => ({ f with stage := .done }, { s with store := store })
      | (.ok balance, store) =>
        let s := { s with store := store }
        match Quota.plan config f.ctx amount balance with
        | .error _ => ({ f with stage := .done }, s.record .quotaRejected)
        | .ok p => ({ f with stage := .planned p }, s)

/-- The second step of a reservation from a wallet. -/
def finish (f : Flight) (s : Quota.State σ) : Flight × Quota.State σ :=
  match f.stage with
  | .fresh => (f, s)
  | .done => (f, s)
  | .planned p => match Quota.carryOut p f.ctx s with
    | (.ok (), ctx, s) => ({ f with ctx := ctx, stage := .done, granted := p.amount }, s)
    | (.error _, ctx, s) => ({ f with ctx := ctx, stage := .done }, s)

/-- The flight after a settlement that left a context and had a result. -/
def noted (f : Flight) (outcome : Outcome) (ctx : Context) : Except Refusal (Option Job) → Flight
  | .ok job =>
    { f with
      ctx := ctx, stage := .done, first := f.first <|> some ⟨outcome, none⟩
      pending := f.pending ++ job.toList }
  | .error refusal =>
    { f with ctx := ctx, stage := .done, first := f.first <|> some ⟨outcome, some refusal⟩ }

/-- A settlement. A flight that is about to reserve is not settled. -/
def settle (config : QuotaConfig) (outcome : Outcome) (f : Flight) (s : Quota.State σ) :
    Flight × Quota.State σ :=
  match f.stage with
  | .planned _ => (f, s)
  | .fresh | .done => match Gateway.settle config outcome f.ctx s with
    | (r, ctx, s) => (f.noted outcome ctx r, s)

/-- A piece of the work in the background. -/
def work (k : Nat) (f : Flight) (s : Quota.State σ) : Flight × Quota.State σ :=
  match f.pending[k]? with
  | none => (f, s)
  | some job =>
    ({ f with pending := f.pending.eraseIdx k }, (Gateway.runJob Http.unreachable job s ()).1)

/-- One step of a flight, with what it does to the store. -/
def act (config : QuotaConfig) (f : Flight) (s : Quota.State σ) : Action → Flight × Quota.State σ
  | .start now estimate => f.start config now estimate s
  | .finish => f.finish s
  | .settle outcome => f.settle config outcome s
  | .work k => f.work k s

/-! ## What a flight keeps -/

theorem bare_start (config : QuotaConfig) (now estimate : Int) (f : Flight)
    (s : Quota.State σ) : (f.start config now estimate s).1.ctx.bare = f.ctx.bare := by
  have hsub := Quota.bare_reserveFromSubscription now (max estimate 0) f.ctx s
  unfold start
  split
  · rfl
  · rfl
  · dsimp only
    split
    · split
      · rename_i hr
        rw [hr] at hsub
        exact hsub
      · rename_i hr
        rw [hr] at hsub
        exact hsub
    · split
      · rfl
      · split <;> rfl

theorem bare_finish (f : Flight) (s : Quota.State σ) : (f.finish s).1.ctx.bare = f.ctx.bare := by
  unfold finish
  split
  · rfl
  · rfl
  · rename_i p _
    have hplan := Quota.bare_carryOut p f.ctx s
    split
    · rename_i hr
      rw [hr] at hplan
      exact hplan
    · rename_i hr
      rw [hr] at hplan
      exact hplan

theorem bare_settle (config : QuotaConfig) (outcome : Outcome) (f : Flight)
    (s : Quota.State σ) : (f.settle config outcome s).1.ctx.bare = f.ctx.bare := by
  have hnoted : ∀ ctx r, (f.noted outcome ctx r).ctx = ctx := by
    intro ctx r
    cases r <;> rfl
  have hsettle := Gateway.bare_settle config outcome f.ctx s
  unfold settle
  split
  · rfl
  all_goals
    dsimp only
    rw [hnoted]
    exact hsettle

theorem bare_work (k : Nat) (f : Flight) (s : Quota.State σ) :
    (f.work k s).1.ctx.bare = f.ctx.bare := by
  unfold work
  split <;> rfl

/-- No step changes what a request brought with it. -/
theorem bare_act (config : QuotaConfig) (f : Flight) (s : Quota.State σ) (a : Action) :
    (f.act config s a).1.ctx.bare = f.ctx.bare := by
  cases a with
  | start now estimate => exact bare_start config now estimate f s
  | finish => exact bare_finish f s
  | settle outcome => exact bare_settle config outcome f s
  | work k => exact bare_work k f s

/-- Looking at the wallet and carrying out the plan at once is reserving. -/
theorem finish_start (config : QuotaConfig) (now estimate : Int) (f : Flight) (s : Quota.State σ)
    (hfresh : f.stage = .fresh) (hgranted : f.granted = 0) :
    let reserved := Quota.reserve config now estimate f.ctx s
    let started := f.start config now estimate s
    let finished := started.1.finish started.2
    finished.1.ctx = reserved.2.1 ∧ finished.2 = reserved.2.2 ∧ finished.1.stage = .done ∧
      finished.1.granted = match reserved.1 with
        | .ok () => reserved.2.1.reserved
        | .error _ => 0 := by
  intro reserved started finished
  simp only [reserved, started, finished, Quota.reserve, start, hfresh]
  by_cases hsub : Quota.usesSubscription config f.ctx = true
  · simp only [hsub, if_true]
    cases hr : Quota.reserveFromSubscription now (max estimate 0) f.ctx s with
    | mk r rest =>
      cases r with
      | error e => exact ⟨rfl, rfl, rfl, hgranted⟩
      | ok u =>
        refine ⟨rfl, rfl, rfl, ?_⟩
        unfold Quota.reserveFromSubscription at hr
        split at hr <;> cases hr
        rfl
  · simp only [hsub, Quota.reserveFromWallet, Bool.false_eq_true, if_false]
    cases hb : UserStore.balance f.ctx.user s.store with
    | mk r store =>
      cases r with
      | error e => exact ⟨rfl, rfl, rfl, hgranted⟩
      | ok balance =>
        dsimp only
        cases hp : Quota.plan config f.ctx (max estimate 0) balance with
        | error refusal => exact ⟨rfl, rfl, rfl, hgranted⟩
        | ok p =>
          dsimp only [finish]
          cases hc : Quota.carryOut p f.ctx { s with store := store } with
          | mk r rest =>
            cases r with
            | error e => exact ⟨rfl, rfl, rfl, hgranted⟩
            | ok u => exact ⟨rfl, rfl, rfl, (Quota.reserved_carryOut hc).symm⟩

/-- What was reserved for the flight and has neither been settled nor been given back. -/
def unreconciled (f : Flight) : Int :=
  match f.first with
  | none => f.granted
  | some ⟨.failed, _⟩ => if f.pending.isEmpty then 0 else f.granted
  | some ⟨.succeeded _, _⟩ => 0

/-- The context and the flight agree on whether there was a settlement. -/
theorem first_ne_none {f : Flight} (hopen : f.first = none → f.ctx.settled = false)
    (hsettled : f.ctx.settled = true) : f.first ≠ none := by
  intro hnone
  rw [hopen hnone] at hsettled
  cases hsettled

theorem first_eq_none {f : Flight} (hclosed : f.first ≠ none → f.ctx.settled = true)
    (hsettled : f.ctx.settled = false) : f.first = none := by
  by_contra hne
  rw [hclosed hne] at hsettled
  cases hsettled

/-- Where only one piece of work waits, it is the one that is done. -/
theorem eq_of_pending {f : Flight} {only job : Job} {k : Nat} (hpending : f.pending = [only])
    (hjob : f.pending[k]? = some job) : k = 0 ∧ job = only := by
  rw [hpending] at hjob
  cases k with
  | zero =>
    cases hjob
    exact ⟨rfl, rfl⟩
  | succ n => cases hjob

/-- A flight after a settlement that is not the first is as it was. -/
theorem noted_again {f : Flight} (h : f.first ≠ none) (outcome : Outcome) :
    f.noted outcome f.ctx (.ok none) = { f with stage := .done } := by
  cases hfirst : f.first with
  | none => exact absurd hfirst h
  | some r =>
    unfold noted
    rw [hfirst]
    simp

end Flight

/-- Requests in flight, and what they work on. -/
structure Traffic (σ : Type) where
  quota : Quota.State σ
  flights : List Flight

namespace Traffic

variable {σ : Type} [UserStore σ]

/-- The start of all traffic: no request has taken a step. -/
def opened (quota : Quota.State σ) (ctxs : List Context) : Traffic σ :=
  ⟨quota, ctxs.map fun ctx => { ctx := ctx }⟩

/-- Gives a flight its turn. -/
def step (config : QuotaConfig) (t : Traffic σ) (turn : Nat × Action) : Traffic σ :=
  match Run.turn (Flight.act config) t.quota t.flights turn with
  | (quota, flights) => ⟨quota, flights⟩

/-- Gives flights their turns in the order of a list. -/
def run (config : QuotaConfig) (turns : List (Nat × Action)) (t : Traffic σ) : Traffic σ :=
  turns.foldl (step config) t

/-- There is no such flight, or it takes its step. -/
theorem step_cases (config : QuotaConfig) (t : Traffic σ) (turn : Nat × Action) :
    t.step config turn = t ∨ ∃ f, t.flights[turn.1]? = some f ∧
      t.step config turn =
        ⟨(f.act config t.quota turn.2).2, t.flights.set turn.1 (f.act config t.quota turn.2).1⟩ := by
  unfold step
  rcases Run.turn_cases (Flight.act config) t.quota t.flights turn with hnone | ⟨f, hf, hturn⟩
  · rw [hnone]
    exact .inl rfl
  · rw [hturn]
    exact .inr ⟨f, hf, rfl⟩

theorem step_eq {config : QuotaConfig} {t : Traffic σ} {i : Nat} {f : Flight}
    (hf : t.flights[i]? = some f) (a : Action) :
    t.step config (i, a) =
      ⟨(f.act config t.quota a).2, t.flights.set i (f.act config t.quota a).1⟩ := by
  unfold step Run.turn
  rw [hf]

theorem run_concat (config : QuotaConfig) (turns : List (Nat × Action)) (turn : Nat × Action)
    (t : Traffic σ) : t.run config (turns ++ [turn]) = (t.run config turns).step config turn :=
  List.foldl_concat (step config) t turn turns

/-- The flights of a run are those with which it began, in the same order. -/
theorem bare_run (config : QuotaConfig) (turns : List (Nat × Action)) (t : Traffic σ) :
    (t.run config turns).flights.map (·.ctx.bare) = t.flights.map (·.ctx.bare) := by
  induction turns generalizing t with
  | nil => rfl
  | cons turn rest ih =>
    have hstep : (t.step config turn).flights.map (·.ctx.bare) = t.flights.map (·.ctx.bare) :=
      Run.map_turn (·.ctx.bare) (Flight.bare_act config) t.quota t.flights turn
    exact (ih (t.step config turn)).trans hstep

end Traffic

end Turnstile
