import Mathlib.Algebra.Order.Group.Nat
import Turnstile.Proofs.Admission.Events
import Turnstile.Proofs.Admission.Frame
import Turnstile.Proofs.Moderation.FailClosed
import Turnstile.Proofs.Run

/-!
# The counters account for a shift

A shift is the work of one gateway over some time.  Any number of visitors, each with a fresh
context, call for admission and settle, as often as they like.  A call goes step by step, since it
waits between its steps: the gate, the channel, the reservation, which on the wallet is a look and
a debit.  In between other visitors have their turn, work of the background is done or cut off at
its time limit, and store, dispatch, moderation and the world outside change in any way.

In the middle of calls the counters do not quite add up with the answers: a channel has been
selected for a visitor that has no answer yet.  So every relation is stated with what is still
under way (`Shift.Balanced`), and a turn of one visitor keeps all of them because what it counts
makes up for what it begins or ends (`Turned.Accounts`).

* `Shift.run_admission` — a call whose steps follow each other is `Gateway.accept`;
* `Turned.accounted_enter`, `accounted_proceed`, `accounted_settle` — one turn of one visitor;
* `Shift.balanced_step` — a turn of a visitor, a piece of work, or a change from elsewhere;
* `Shift.counters_account` — the counters after any run.
-/

set_option autoImplicit false

namespace Turnstile

/-! ## Visitors -/

/-- What a visitor asks for. -/
structure Petition where
  request : RelayRequest
  counted : Option String
  inbound : Inbound
  estimate : Int
  retry : Nat

/-- How far a call for admission has come. -/
inductive Progress where
  /-- There is no call, or it has been answered. -/
  | idle
  /-- The gate let the request pass. -/
  | passed (p : Petition)
  /-- A channel has been selected. -/
  | routed (p : Petition) (admission : Admission)
  /-- The wallet has been looked at. -/
  | looked (p : Petition) (admission : Admission) (balance : Int)

/-- A channel has been selected, and the call has not been answered. -/
def Progress.isRouted : Progress → Bool
  | idle => false
  | passed _ => false
  | routed _ _ => true
  | looked _ _ _ => true

/-- There is no call under way. -/
def Progress.isIdle : Progress → Bool
  | idle => true
  | passed _ => false
  | routed _ _ => false
  | looked _ _ _ => false

theorem Progress.not_isRouted {p : Progress} (h : p.isIdle = true) : p.isRouted = false := by
  cases p with
  | idle => rfl
  | passed p => rfl
  | routed p admission => cases h
  | looked p admission balance => cases h

@[simp] theorem Progress.isRouted_idle : Progress.idle.isRouted = false := rfl

/-- A visitor of a gateway. -/
structure Visitor where
  ctx : Context
  progress : Progress := .idle

/-- What turns of a visitor lead to: the visitor, the work left to the background, the answers to
its calls, and what the gateway works on. -/
structure Turned (σ κ π : Type) where
  visitor : Visitor
  jobs : List Job := []
  answers : List Answer := []
  state : GatewayState σ κ π

/-- A turn, and another behind it. -/
def Turned.andThen {σ κ π : Type} (r : Turned σ κ π)
    (f : Visitor → GatewayState σ κ π → Turned σ κ π) : Turned σ κ π :=
  match f r.visitor r.state with
  | ⟨v, jobs, answers, state⟩ => ⟨v, r.jobs ++ jobs, r.answers ++ answers, state⟩

namespace Visitor

variable {σ κ π : Type}

/-- A visitor without a call under way calls, and is asked at the gate. -/
def enter (g : Gateway κ π) (t : Moment) (p : Petition) (v : Visitor) (s : GatewayState σ κ π) :
    Turned σ κ π :=
  match v.progress with
  | .idle => match g.enforce t v.ctx.mode v.ctx.format p.request p.counted p.inbound s with
    | (.error refusal, jobs, s) =>
      { visitor := v, jobs := jobs, answers := [.error refusal], state := s }
    | (.ok (), jobs, s) =>
      { visitor := { v with progress := .passed p }, jobs := jobs, state := s }
  | _ => { visitor := v, state := s }

variable [UserStore σ]

/-- The call of a visitor goes on by one step. -/
def proceed (g : Gateway κ π) (t : Moment) (v : Visitor) (s : GatewayState σ κ π) :
    Turned σ κ π :=
  match v.progress with
  | .idle => { visitor := v, state := s }
  | .passed p => match g.route t p.request p.retry v.ctx s with
    | (.error refusal, ctx, s) =>
      { visitor := { ctx := ctx }, answers := [.error refusal], state := s }
    | (.ok admission, ctx, s) =>
      { visitor := { ctx := ctx, progress := .routed p admission }, state := s }
  | .routed p admission =>
    if Quota.usesSubscription g.config.quota v.ctx then
      match Quota.reserveFromSubscription t.seconds (max p.estimate 0) v.ctx s.quota with
      | (r, ctx, quota) =>
        { visitor := { ctx := ctx }, answers := [r.map fun _ => admission]
          state := { s with quota := quota } }
    else match UserStore.balance v.ctx.user s.quota.store with
      | (.error e, store) =>
        { visitor := { ctx := v.ctx }, answers := [.error (.dataQuery e.message)]
          state := { s with quota := { s.quota with store := store } } }
      | (.ok balance, store) =>
        { visitor := { v with progress := .looked p admission balance }
          state := { s with quota := { s.quota with store := store } } }
  | .looked p admission balance =>
    match Quota.plan g.config.quota v.ctx (max p.estimate 0) balance with
    | .error refusal =>
      { visitor := { ctx := v.ctx }, answers := [.error refusal]
        state := { s with quota := s.quota.record .quotaRejected } }
    | .ok plan => match Quota.carryOut plan v.ctx s.quota with
      | (r, ctx, quota) =>
        { visitor := { ctx := ctx }, answers := [r.map fun _ => admission]
          state := { s with quota := quota } }

/-- A call whose steps follow each other. -/
def call (g : Gateway κ π) (t : Moment) (p : Petition) (v : Visitor) (s : GatewayState σ κ π) :
    Turned σ κ π :=
  (((v.enter g t p s).andThen (proceed g t)).andThen (proceed g t)).andThen (proceed g t)

/-- A visitor without a call under way settles. -/
def settle (config : QuotaConfig) (outcome : Outcome) (v : Visitor) (s : GatewayState σ κ π) :
    Turned σ κ π :=
  match v.progress with
  | .idle => match Gateway.settle config outcome v.ctx s.quota with
    | (r, ctx, quota) =>
      { visitor := { ctx := ctx }, jobs := leftBehind r, state := { s with quota := quota } }
  | _ => { visitor := v, state := s }

end Visitor

section Call

variable {σ κ π : Type} [UserStore σ]

theorem Visitor.proceed_idle (g : Gateway κ π) (t : Moment) (ctx : Context)
    (s : GatewayState σ κ π) :
    Visitor.proceed g t { ctx := ctx } s = { visitor := { ctx := ctx }, state := s } := rfl

theorem Turned.andThen_idle (g : Gateway κ π) (t : Moment) (ctx : Context) (jobs : List Job)
    (answers : List Answer) (s : GatewayState σ κ π) :
    Turned.andThen ⟨{ ctx := ctx }, jobs, answers, s⟩ (Visitor.proceed g t) =
      ⟨{ ctx := ctx }, jobs, answers, s⟩ := by
  simp [Turned.andThen, Visitor.proceed_idle]

/-- Looking at the wallet and carrying out the plan at once is reserving from it. -/
theorem Visitor.reserve_at_once (g : Gateway κ π) (t : Moment) (p : Petition) (ctx : Context)
    (jobs : List Job) (admission : Admission) (s : GatewayState σ κ π) :
    ((Turned.andThen ⟨⟨ctx, .routed p admission⟩, jobs, [], s⟩ (Visitor.proceed g t)).andThen
      (Visitor.proceed g t)) =
      match Quota.reserve g.config.quota t.seconds p.estimate ctx s.quota with
      | (r, ctx, quota) =>
        ⟨{ ctx := ctx }, jobs, [r.map fun _ => admission], { s with quota := quota }⟩ := by
  unfold Quota.reserve
  dsimp only
  by_cases hsub : Quota.usesSubscription g.config.quota ctx = true
  · simp [Turned.andThen, Visitor.proceed, hsub]
  · rw [if_neg hsub]
    unfold Quota.reserveFromWallet
    cases hlook : UserStore.balance ctx.user s.quota.store with
    | mk r store =>
      cases r with
      | error e => simp [Turned.andThen, Visitor.proceed, hsub, hlook, Except.map]
      | ok balance =>
        cases hplan : Quota.plan g.config.quota ctx (max p.estimate 0) balance with
        | error refusal => simp [Turned.andThen, Visitor.proceed, hsub, hlook, hplan, Except.map]
        | ok plan => simp [Turned.andThen, Visitor.proceed, hsub, hlook, hplan]

/-- A call whose steps follow each other is an admission. -/
theorem Visitor.call_eq (g : Gateway κ π) (t : Moment) (p : Petition) (ctx : Context)
    (s : GatewayState σ κ π) :
    Visitor.call g t p { ctx := ctx } s =
      match g.accept t p.request p.counted p.inbound p.estimate p.retry ctx s with
      | (answer, jobs, ctx, s) => ⟨{ ctx := ctx }, jobs, [answer], s⟩ := by
  unfold Visitor.call Gateway.accept
  cases henforce : g.enforce t ctx.mode ctx.format p.request p.counted p.inbound s with
  | mk verdict rest =>
    obtain ⟨jobs, s₁⟩ := rest
    cases verdict with
    | error refusal =>
      have henter : Visitor.enter g t p { ctx := ctx } s =
          ⟨{ ctx := ctx }, jobs, [.error refusal], s₁⟩ := by simp [Visitor.enter, henforce]
      rw [henter, Turned.andThen_idle, Turned.andThen_idle, Turned.andThen_idle]
    | ok u =>
      have henter : Visitor.enter g t p { ctx := ctx } s = ⟨⟨ctx, .passed p⟩, jobs, [], s₁⟩ := by
        simp [Visitor.enter, henforce]
      rw [henter]
      dsimp only
      cases hroute : g.route t p.request p.retry ctx s₁ with
      | mk routed rest =>
        obtain ⟨ctx₂, s₂⟩ := rest
        cases routed with
        | error refusal =>
          have hproceed : Turned.andThen ⟨⟨ctx, .passed p⟩, jobs, [], s₁⟩ (Visitor.proceed g t) =
              ⟨{ ctx := ctx₂ }, jobs, [.error refusal], s₂⟩ := by
            simp [Turned.andThen, Visitor.proceed, hroute]
          rw [hproceed, Turned.andThen_idle, Turned.andThen_idle]
        | ok admission =>
          have hproceed : Turned.andThen ⟨⟨ctx, .passed p⟩, jobs, [], s₁⟩ (Visitor.proceed g t) =
              ⟨⟨ctx₂, .routed p admission⟩, jobs, [], s₂⟩ := by
            simp [Turned.andThen, Visitor.proceed, hroute]
          rw [hproceed, Visitor.reserve_at_once]
          dsimp only
          cases Quota.reserve g.config.quota t.seconds p.estimate ctx₂ s₂.quota with
          | mk r rest => cases r <;> rfl

end Call

namespace Turned

variable {σ κ π : Type}

/-- What a turn counts makes up for what it begins and ends. `es` is what it counts. -/
structure Accounts (v : Visitor) (es : List Event) (r : Turned σ κ π) : Prop where
  judged : es.count .moderationBlocked + es.count .moderationProviderFailure ≤
    es.count .moderationChecked
  reported : es.count .webhookDelivered + es.count .webhookFailed +
    r.jobs.countP Job.isDelivery ≤ es.count .moderationBlocked
  selected : es.count .channelSelected + v.progress.isRouted.toNat =
    r.visitor.progress.isRouted.toNat + r.answers.countP admitted +
      r.answers.countP (refusedOver .quota)
  reserved : es.count .quotaReserved + es.count .quotaTrusted + es.count .quotaRejected +
    r.visitor.progress.isRouted.toNat ≤ es.count .channelSelected + v.progress.isRouted.toNat
  returned : es.count .quotaReturned + r.jobs.countP Job.isRefund + r.visitor.ctx.holds.toNat ≤
    es.count .quotaReserved + v.ctx.holds.toNat
  probes : es.count .probeRejected = r.answers.countP (refusedOver .probe)
  exhausted : es.count .channelPoolExhausted = r.answers.countP (refusedOver .pool)
  blocked : es.count .moderationBlocked = r.answers.countP (refusedOver .violation)

/-- A turn from some counters counts what makes up for it. -/
def Accounted (v : Visitor) (c : Counters) (r : Turned σ κ π) : Prop :=
  ∃ es, r.state.quota.counters = c.recordAll es ∧ r.Accounts v es

theorem accounted_nothing (v : Visitor) (s : GatewayState σ κ π) :
    Accounted v s.quota.counters { visitor := v, state := s } :=
  ⟨[], rfl, by constructor <;> simp⟩

theorem accounted_enter (g : Gateway κ π) (t : Moment) (p : Petition) (v : Visitor)
    (s : GatewayState σ κ π) : (v.enter g t p s).Accounted v s.quota.counters := by
  unfold Visitor.enter
  split
  · rename_i hidle
    split
    all_goals
      rename_i henforce
      obtain ⟨verdict, hcounters, hdeliveries, hrefunds, hr⟩ := Gateway.enforce_counted henforce
      refine ⟨verdict.events, hcounters, ?_⟩
    · cases verdict <;> cases hr <;> constructor <;>
        simp_all [Moderation.Verdict.events, Refusal.ground]
    · cases verdict <;> cases hr <;> constructor <;>
        simp_all [Moderation.Verdict.events, Progress.isRouted, Context.holds]
  · exact accounted_nothing v s

/-- A reservation, refused or not, ends the call for which a channel was selected. -/
theorem accounted_reserve {v : Visitor} {ctx : Context} {r : Except Refusal Unit}
    {es : List Event} {s s' : GatewayState σ κ π} (hrouted : v.progress.isRouted = true)
    (hcounters : s'.quota.counters = s.quota.counters.recordAll es)
    (h : Quota.ReserveCounts v.ctx ctx r es) (admission : Admission) :
    Accounted v s.quota.counters
      { visitor := { ctx := ctx }, answers := [r.map fun _ => admission], state := s' } := by
  refine ⟨es, hcounters, ?_⟩
  have hheld := Bool.toNat_le ctx.holds
  cases h with
  | reserved =>
    constructor <;> simp [hrouted, Except.map]
    omega
  | trusted hnone => constructor <;> simp [hrouted, hnone, Except.map, Context.holds]
  | free hnone => constructor <;> simp [hrouted, hnone, Except.map, Context.holds]
  | rejected refusal hground hsame =>
    constructor <;> simp [hrouted, hground, hsame, Except.map, Context.holds]
  | failed refusal hground hsame =>
    constructor <;> simp [hrouted, hground, hsame, Except.map, Context.holds]

variable [UserStore σ]

theorem accounted_proceed (g : Gateway κ π) (t : Moment) (v : Visitor) (s : GatewayState σ κ π) :
    (v.proceed g t s).Accounted v s.quota.counters := by
  unfold Visitor.proceed
  split
  · exact accounted_nothing v s
  · rename_i p hpassed
    split
    all_goals
      rename_i hroute
      obtain ⟨es, hcounters, hr⟩ := Gateway.route_counted hroute
      obtain ⟨-, ⟨hreserved, -, -⟩, -, -⟩ := Gateway.route_frame hroute
      refine ⟨es, hcounters, ?_⟩
    · cases hr with
      | exhausted refusal hground =>
        constructor <;> simp [hpassed, hground, hreserved, Progress.isRouted, Context.holds]
      | refused refusal hground =>
        constructor <;> simp [hpassed, hground, hreserved, Progress.isRouted, Context.holds]
    · cases hr with
      | selected admission =>
        constructor <;> simp [hpassed, hreserved, Progress.isRouted, Context.holds]
  · rename_i p admission hrouted
    have hunder : v.progress.isRouted = true := by rw [hrouted]; rfl
    split
    · dsimp only
      generalize hreserve : Quota.reserveFromSubscription t.seconds (max p.estimate 0) v.ctx s.quota
        = done
      obtain ⟨r, ctx, quota⟩ := done
      obtain ⟨es, hcounters, hcounts⟩ := Quota.reserveFromSubscription_counted hreserve
      exact accounted_reserve hunder hcounters hcounts admission
    · split
      · rename_i e store _
        have hcounts : Quota.ReserveCounts v.ctx v.ctx (.error (.dataQuery e.message)) [] :=
          .failed _ rfl rfl
        exact accounted_reserve hunder rfl hcounts admission
      · refine ⟨[], rfl, ?_⟩
        constructor <;> simp [hrouted, Progress.isRouted, Context.holds]
  · rename_i p admission balance hlooked
    have hunder : v.progress.isRouted = true := by rw [hlooked]; rfl
    split
    · rename_i refusal hplan
      have hground := Quota.plan_refused hplan
      exact accounted_reserve hunder rfl (.rejected refusal hground rfl) admission
    · rename_i plan hplan
      dsimp only
      generalize hcarry : Quota.carryOut plan v.ctx s.quota = done
      obtain ⟨r, ctx, quota⟩ := done
      have hamount := Quota.amount_nonneg_of_plan (Int.le_max_right _ _) hplan
      obtain ⟨es, hcounters, hcounts⟩ := Quota.carryOut_counted hamount hcarry
      exact accounted_reserve hunder hcounters hcounts admission

theorem accounted_settle (config : QuotaConfig) (outcome : Outcome) (v : Visitor)
    (s : GatewayState σ κ π) : (v.settle config outcome s).Accounted v s.quota.counters := by
  unfold Visitor.settle
  split
  · rename_i hidle
    dsimp only
    generalize hsettle : Gateway.settle config outcome v.ctx s.quota = done
    obtain ⟨settled, ctx, quota⟩ := done
    obtain ⟨es, hcounters, hcounted, hdeliveries, hrefunds⟩ := Gateway.settle_counted hsettle
    refine ⟨es, hcounters, ?_⟩
    rcases hcounted with rfl | rfl <;> constructor <;> simp [hidle, hdeliveries, hrefunds]
  · exact accounted_nothing v s

end Turned

/-! ## Shifts -/

/-- A gateway at work: what it works on, the world outside, its visitors, the work that waits in the
background, and the answers that were given. -/
structure Shift (σ κ π τ : Type) where
  state : GatewayState σ κ π
  remote : τ
  visitors : List Visitor
  waiting : List Job := []
  answers : List Answer := []

/-- What happens in a shift. -/
inductive Move (σ κ π τ : Type) where
  /-- The `i`th visitor calls. -/
  | enter (i : Nat) (t : Moment) (p : Petition)
  /-- The call of the `i`th visitor goes on. -/
  | proceed (i : Nat) (t : Moment)
  /-- The `i`th visitor settles. -/
  | settle (i : Nat) (outcome : Outcome)
  /-- The `k`th piece of the work that waits is done. -/
  | work (k : Nat)
  /-- The `k`th piece of the work that waits is cut off. -/
  | cut (k : Nat)
  /-- Anything but the counters is changed from elsewhere. -/
  | elsewhere (store : σ) (dispatch : Dispatch.State κ) (moderation : Moderation.GateState π)
    (remote : τ)

namespace Shift

variable {σ κ π τ : Type}

/-- The shift after turns of the `i`th visitor. -/
def after (i : Nat) (r : Turned σ κ π) (s : Shift σ κ π τ) : Shift σ κ π τ :=
  { state := r.state, remote := s.remote, visitors := s.visitors.set i r.visitor
    waiting := s.waiting ++ r.jobs, answers := s.answers ++ r.answers }

/-- The `i`th visitor has a turn. -/
def turn (i : Nat) (f : Visitor → GatewayState σ κ π → Turned σ κ π) (s : Shift σ κ π τ) :
    Shift σ κ π τ :=
  match s.visitors[i]? with
  | none => s
  | some v => s.after i (f v s.state)

/-- The counters of a shift. -/
def counters (s : Shift σ κ π τ) : Counters := s.state.quota.counters

variable [UserStore σ]

/-- One move. -/
def step (g : Gateway κ π) (send : Http.Transport τ) (s : Shift σ κ π τ) :
    Move σ κ π τ → Shift σ κ π τ
  | .enter i t p => s.turn i (Visitor.enter g t p)
  | .proceed i t => s.turn i (Visitor.proceed g t)
  | .settle i outcome => s.turn i (Visitor.settle g.config.quota outcome)
  | .work k => match s.waiting[k]? with
    | none => s
    | some job => match Gateway.runJob send job s.state.quota s.remote with
      | (quota, remote) =>
        { s with
          state := { s.state with quota := quota }, remote := remote
          waiting := s.waiting.eraseIdx k }
  | .cut k => { s with waiting := s.waiting.eraseIdx k }
  | .elsewhere store dispatch moderation remote =>
    { s with state := ⟨⟨store, s.counters⟩, dispatch, moderation⟩, remote := remote }

/-- Moves one after the other. -/
def run (g : Gateway κ π) (send : Http.Transport τ) (moves : List (Move σ κ π τ))
    (s : Shift σ κ π τ) : Shift σ κ π τ :=
  moves.foldl (step g send) s

/-- The counters add up with the answers, with the calls that have no answer yet and with the work
that waits. -/
structure Balanced (s : Shift σ κ π τ) : Prop where
  judged : s.counters.count .moderationBlocked + s.counters.count .moderationProviderFailure ≤
    s.counters.count .moderationChecked
  reported : s.counters.count .webhookDelivered + s.counters.count .webhookFailed +
    s.waiting.countP Job.isDelivery ≤ s.counters.count .moderationBlocked
  selected : s.counters.count .channelSelected =
    s.visitors.countP (·.progress.isRouted) + s.answers.countP admitted +
      s.answers.countP (refusedOver .quota)
  reserved : s.counters.count .quotaReserved + s.counters.count .quotaTrusted +
    s.counters.count .quotaRejected + s.visitors.countP (·.progress.isRouted) ≤
      s.counters.count .channelSelected
  returned : s.counters.count .quotaReturned + s.waiting.countP Job.isRefund +
    s.visitors.countP (·.ctx.holds) ≤ s.counters.count .quotaReserved
  probes : s.counters.count .probeRejected = s.answers.countP (refusedOver .probe)
  exhausted : s.counters.count .channelPoolExhausted = s.answers.countP (refusedOver .pool)
  blocked : s.counters.count .moderationBlocked = s.answers.countP (refusedOver .violation)

omit [UserStore σ] in
/-- A turn that makes up for what it begins and ends keeps the balance. -/
theorem balanced_turn {s : Shift σ κ π τ} {f : Visitor → GatewayState σ κ π → Turned σ κ π}
    (hf : ∀ v state, (f v state).Accounted v state.quota.counters) (i : Nat) (h : s.Balanced) :
    (s.turn i f).Balanced := by
  unfold turn
  split
  · exact h
  · rename_i v hv
    obtain ⟨es, hcounters, hturn⟩ := hf v s.state
    generalize f v s.state = r at hcounters hturn
    have hcount : ∀ e, (s.after i r).counters.count e = s.counters.count e + es.count e := fun e =>
      (congrArg (Counters.count · e) hcounters).trans (Counters.count_recordAll _ es e)
    have hjobs : ∀ p, (s.after i r).waiting.countP p = s.waiting.countP p + r.jobs.countP p :=
      fun p => List.countP_append
    have hanswers : ∀ p, (s.after i r).answers.countP p = s.answers.countP p + r.answers.countP p :=
      fun p => List.countP_append
    have hrouted : (s.after i r).visitors.countP (·.progress.isRouted) + _ = _ :=
      Run.countP_set (fun v : Visitor => v.progress.isRouted) r.visitor hv
    have hheld : (s.after i r).visitors.countP (·.ctx.holds) + _ = _ :=
      Run.countP_set (fun v : Visitor => v.ctx.holds) r.visitor hv
    obtain ⟨hjudged, hreported, hselected, hreserved, hreturned, hprobes, hexhausted, hblocked⟩ :=
      hturn
    obtain ⟨bjudged, breported, bselected, breserved, breturned, bprobes, bexhausted, bblocked⟩ := h
    constructor
    all_goals
      simp only [hcount, hjobs, hanswers]
      omega

/-- A piece of work counts for itself and waits no longer. -/
theorem balanced_work (g : Gateway κ π) (send : Http.Transport τ) (k : Nat) {s : Shift σ κ π τ}
    (h : s.Balanced) : (s.step g send (.work k)).Balanced := by
  dsimp only [step]
  split
  · exact h
  · rename_i job hjob
    obtain ⟨e, hcounters, hcounts⟩ := Gateway.runJob_counted send job s.state.quota s.remote
    have hcount : ∀ e', (Gateway.runJob send job s.state.quota s.remote).1.counters.count e' =
        s.state.quota.counters.count e' + [e].count e' := fun e' => by
      rw [hcounters, Counters.count_record]
    have hdeliveries := Run.countP_eraseIdx Job.isDelivery hjob
    have hrefunds := Run.countP_eraseIdx Job.isRefund hjob
    obtain ⟨bjudged, breported, bselected, breserved, breturned, bprobes, bexhausted, bblocked⟩ := h
    rcases hcounts with ⟨hdelivery, hrefund, rfl | rfl⟩ | ⟨hdelivery, hrefund, rfl | rfl⟩
    all_goals
      rw [hdelivery] at hdeliveries
      rw [hrefund] at hrefunds
      constructor
      all_goals
        simp only [counters, hcount] at *
        simp at *
        omega

omit [UserStore σ] in
/-- Work that is cut off counts nothing. -/
theorem balanced_cut (k : Nat) {s : Shift σ κ π τ} (h : s.Balanced) :
    Balanced { s with waiting := s.waiting.eraseIdx k } := by
  have hsub := List.eraseIdx_sublist s.waiting k
  have hdeliveries : (s.waiting.eraseIdx k).countP Job.isDelivery ≤ _ := hsub.countP_le
  have hrefunds : (s.waiting.eraseIdx k).countP Job.isRefund ≤ _ := hsub.countP_le
  exact { h with
    reported := Nat.le_trans (Nat.add_le_add_left hdeliveries _) h.reported
    returned := Nat.le_trans (Nat.add_le_add_right (Nat.add_le_add_left hrefunds _) _) h.returned }

/-- Every move keeps the balance, -/
theorem balanced_step (g : Gateway κ π) (send : Http.Transport τ) {s : Shift σ κ π τ}
    (m : Move σ κ π τ) (h : s.Balanced) : (s.step g send m).Balanced := by
  cases m with
  | enter i t p => exact balanced_turn (fun v => Turned.accounted_enter g t p v) i h
  | proceed i t => exact balanced_turn (fun v => Turned.accounted_proceed g t v) i h
  | settle i outcome => exact balanced_turn (fun v => Turned.accounted_settle _ outcome v) i h
  | work k => exact balanced_work g send k h
  | cut k => exact balanced_cut k h
  | elsewhere store dispatch moderation remote =>
    exact ⟨h.judged, h.reported, h.selected, h.reserved, h.returned, h.probes, h.exhausted,
      h.blocked⟩

/-- and so does every run. -/
theorem balanced_run (g : Gateway κ π) (send : Http.Transport τ) (moves : List (Move σ κ π τ))
    {s : Shift σ κ π τ} (h : s.Balanced) : (s.run g send moves).Balanced :=
  Run.keeps (fun _ m => balanced_step g send m) moves h

omit [UserStore σ] in
/-- Two turns of one visitor, one behind the other. -/
theorem turn_after {s : Shift σ κ π τ} {i : Nat} {v : Visitor} (hv : s.visitors[i]? = some v)
    (r : Turned σ κ π) (f : Visitor → GatewayState σ κ π → Turned σ κ π) :
    (s.after i r).turn i f = s.after i (r.andThen f) := by
  obtain ⟨hi, -⟩ := List.getElem?_eq_some_iff.mp hv
  have hagain : (s.after i r).visitors[i]? = some r.visitor := List.getElem?_set_self hi
  unfold turn
  rw [hagain]
  simp [after, Turned.andThen, List.set_set, List.append_assoc]

/-- A visitor whose call is not interrupted is admitted or refused by `Gateway.accept`. -/
theorem run_admission (g : Gateway κ π) (send : Http.Transport τ) {s : Shift σ κ π τ} {i : Nat}
    {ctx : Context} (hv : s.visitors[i]? = some { ctx := ctx }) (t : Moment) (p : Petition) :
    s.run g send [.enter i t p, .proceed i t, .proceed i t, .proceed i t] =
      match g.accept t p.request p.counted p.inbound p.estimate p.retry ctx s.state with
      | (answer, jobs, ctx, state) => s.after i ⟨{ ctx := ctx }, jobs, [answer], state⟩ := by
  have henter : s.turn i (Visitor.enter g t p) =
      s.after i (Visitor.enter g t p { ctx := ctx } s.state) := by
    unfold turn
    rw [hv]
  show (((s.turn i (Visitor.enter g t p)).turn i (Visitor.proceed g t)).turn i
    (Visitor.proceed g t)).turn i (Visitor.proceed g t) = _
  rw [henter, turn_after hv, turn_after hv, turn_after hv]
  exact congrArg (s.after i) (Visitor.call_eq g t p ctx s.state)

/-- A shift begins with visitors that have not called yet. -/
def opened (state : GatewayState σ κ π) (remote : τ) (ctxs : List Context) : Shift σ κ π τ :=
  { state := state, remote := remote, visitors := ctxs.map fun ctx => { ctx := ctx } }

omit [UserStore σ] in
theorem balanced_opened {state : GatewayState σ κ π} (hzero : state.quota.counters = {})
    (remote : τ) {ctxs : List Context} (hfresh : ∀ ctx ∈ ctxs, ctx.reserved = 0) :
    (opened state remote ctxs).Balanced := by
  have hcount : ∀ e, (opened state remote ctxs).counters.count e = 0 := by
    intro e
    have : (opened state remote ctxs).counters = {} := hzero
    rw [this]
    cases e <;> rfl
  have hrouted : (opened state remote ctxs).visitors.countP (·.progress.isRouted) = 0 := by
    simp [opened]
  have hheld : (opened state remote ctxs).visitors.countP (·.ctx.holds) = 0 := by
    simpa [opened, Context.holds] using hfresh
  constructor <;> simp [hcount, hrouted, hheld] <;> simp [opened]

/-- The counters account for every run. A gateway starts with all counters at zero and visitors for
whom nothing has been reserved, over any store, satisfier and providers and with any transport of
reports. After any moves, wherever no call is under way, the counters add up with the answers. -/
theorem counters_account (g : Gateway κ π) (send : Http.Transport τ)
    (state : GatewayState σ κ π) (remote : τ) (ctxs : List Context)
    (hzero : state.quota.counters = {}) (hfresh : ∀ ctx ∈ ctxs, ctx.reserved = 0)
    (moves : List (Move σ κ π τ))
    (hidle : ∀ v ∈ ((opened state remote ctxs).run g send moves).visitors,
      v.progress.isIdle = true) :
    let s := (opened state remote ctxs).run g send moves
    s.counters.AccountFor s.answers := by
  intro s
  have hbalanced : s.Balanced := balanced_run g send moves (balanced_opened hzero remote hfresh)
  have hrouted : s.visitors.countP (·.progress.isRouted) = 0 := by
    rw [List.countP_eq_zero]
    intro v hv
    simp [Progress.not_isRouted (hidle v hv)]
  obtain ⟨bjudged, breported, bselected, breserved, breturned, bprobes, bexhausted, bblocked⟩ :=
    hbalanced
  simp only [Counters.count] at *
  constructor <;> omega

/-- A gateway that reports what it blocks. -/
def watchful : Gateway (List Proposal) Moderation.Scripts :=
  { Gateway.plain with config := { moderation := { webhookUrl := some "http://ops" } } }

/-- One channel to propose, a wallet of 100, and a fallback provider that finds two things. -/
def watchfulState : GatewayState TableStore (List Proposal) Moderation.Scripts :=
  { Gateway.plainState with moderation := Gateway.guardedState.moderation }

/-- User 7 is not moderated and is sent on, which fails; user 8 is blocked. The reservation of the
one is given back and the report of the other delivered. -/
def watchfulMoves : List (Move TableStore (List Proposal) Moderation.Scripts Unit) :=
  [.enter 0 ⟨0, 0⟩ ⟨.chat ⟨"m", [], none, []⟩, none, { user := 7 }, 60, 0⟩,
    .proceed 0 ⟨0, 0⟩, .proceed 0 ⟨0, 0⟩,
    .enter 1 ⟨0, 0⟩ ⟨.chat ⟨"m", [], none, []⟩, some "hi", { user := 8, group := "default" }, 5, 0⟩,
    .proceed 0 ⟨0, 0⟩, .settle 0 .failed, .work 1, .work 0]

theorem counters_account_watchful :
    let s := (opened watchfulState () [{ user := 7, token := 3, usingGroup := "default" },
      { user := 8, usingGroup := "default", mode := .chatCompletions }]).run watchful
        (fun _ t => (some ⟨200, []⟩, t)) watchfulMoves
    s.counters.AccountFor s.answers ∧ s.counters.quotaReturned = 1 ∧
      s.counters.webhookDelivered = 1 :=
  ⟨counters_account watchful (fun _ t => (some ⟨200, []⟩, t)) watchfulState ()
    [{ user := 7, token := 3, usingGroup := "default" },
      { user := 8, usingGroup := "default", mode := .chatCompletions }] rfl (by decide)
    watchfulMoves (by decide +kernel), by decide +kernel, by decide +kernel⟩

end Shift

end Turnstile
