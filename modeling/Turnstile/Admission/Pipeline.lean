import Turnstile.Admission.Quota
import Turnstile.Dispatch.Selection
import Turnstile.Moderation.Gate
import Turnstile.Moderation.Report

/-!
# Admission

A request is admitted in three steps: it passes the moderation gate, a channel is selected for it,
and its estimated cost is reserved. Nothing is reserved unless the first two succeed. When the
provider has answered or failed, the request is settled: its reservation is given back, or the
difference to the actual cost is charged. Only the first settlement of a context counts.
-/

namespace Turnstile

/-- What does not change while a gateway works. -/
structure Gateway (κ π : Type) where
  config : Config
  gate : Moderation.Gate π
  satisfier : Satisfier κ
  redactor : Redactor

/-- What a gateway works on. -/
structure GatewayState (σ κ π : Type) where
  quota : Quota.State σ
  dispatch : Dispatch.State κ
  moderation : Moderation.GateState π

/-- A point in time: the clock of the gateway in milliseconds, and the calendar's time in
nanoseconds. -/
structure Moment where
  millis : Nat
  nanos : Int := 0
  deriving DecidableEq, Repr

/-- The clock in seconds. -/
def Moment.seconds (t : Moment) : Int := t.millis / 1000

/-- A request that was admitted: the channel it goes to and the group that this serves. -/
structure Admission where
  channel : Channel
  group : String
  deriving DecidableEq, Repr

/-- An admission as JSON. -/
def Admission.toJson (a : Admission) : Json :=
  .object [("channel", a.channel.toJson), ("group", .text a.group)]

/-- What became of a request that was sent on. -/
inductive Outcome where
  /-- It cost nothing. -/
  | failed
  | succeeded (cost : Int)
  deriving DecidableEq, Repr

namespace Gateway

variable {σ κ π : Type}

/-- Asks the gate about a request. A request that it blocks is reported in the background. -/
def enforce (g : Gateway κ π) (t : Moment) (mode : RelayMode) (format : RelayFormat)
    (request : RelayRequest) (counted : Option String) (inbound : Inbound)
    (s : GatewayState σ κ π) : Except Refusal Unit × List Job × GatewayState σ κ π :=
  match g.gate.examine mode format request counted inbound s.moderation with
  | (verdict, moderation) =>
    let counters := s.quota.counters.recordAll verdict.events
    let s := { s with moderation := moderation, quota := { s.quota with counters := counters } }
    let jobs := match verdict, Moderation.reportAddress? g.config.moderation with
      | .blocked categories, some url =>
        let details := Details.collect request counted inbound
        [Job.deliver url (g.redactor.redact (Moderation.report details categories t.nanos))]
      | _, _ => []
    match verdict.refusal? with
    | some refusal => (.error refusal, jobs, s)
    | none => (.ok (), jobs, s)

/-- The model that a request is dispatched for. -/
def modelOf (ctx : Context) (request : RelayRequest) : String :=
  if ctx.requestedModel = "" then request.model else ctx.requestedModel

/-- Selects a channel for a request. A group chosen for `auto` is noted in the context. -/
def dispatch (g : Gateway κ π) (t : Moment) (group model : String) (retry : Nat) (ctx : Context)
    (s : Dispatch.State κ) : Except DispatchError Selected × Context × Dispatch.State κ :=
  match Dispatch.select g.config.dispatch (.still g.satisfier t.millis) ctx.userGroup group model
    retry s with
  | (.error e, s) => (.error e, ctx, s)
  | (.ok selected, s) =>
    let ctx :=
      if group = Dispatch.autoGroup && selected.channel.isSome then
        { ctx with autoGroup := some selected.group }
      else ctx
    (.ok selected, ctx, s)

/-- Selects a channel for a request that passed the gate, and counts. -/
def route (g : Gateway κ π) (t : Moment) (request : RelayRequest) (retry : Nat) (ctx : Context)
    (s : GatewayState σ κ π) : Except Refusal Admission × Context × GatewayState σ κ π :=
  let model := modelOf ctx request
  match g.dispatch t ctx.usingGroup model retry ctx s.dispatch with
  | (.error e, ctx, d) =>
    let s := { s with dispatch := d }
    match Refusal.ofDispatch e with
    | .channelPoolExhausted group model =>
      (.error (.channelPoolExhausted group model), ctx,
        { s with quota := s.quota.record .channelPoolExhausted })
    | refusal => (.error refusal, ctx, s)
  | (.ok ⟨none, group⟩, ctx, d) => (.error (.noChannel group model), ctx, { s with dispatch := d })
  | (.ok ⟨some channel, group⟩, ctx, d) =>
    (.ok ⟨channel, group⟩, ctx,
      { s with dispatch := d, quota := s.quota.record .channelSelected })

variable [UserStore σ]

/-- Admits a request: moderation, a channel, a reservation. -/
def accept (g : Gateway κ π) (t : Moment) (request : RelayRequest) (counted : Option String)
    (inbound : Inbound) (estimate : Int) (retry : Nat) (ctx : Context)
    (s : GatewayState σ κ π) :
    Except Refusal Admission × List Job × Context × GatewayState σ κ π :=
  match g.enforce t ctx.mode ctx.format request counted inbound s with
  | (.error refusal, jobs, s) => (.error refusal, jobs, ctx, s)
  | (.ok (), jobs, s) => match g.route t request retry ctx s with
    | (.error refusal, ctx, s) => (.error refusal, jobs, ctx, s)
    | (.ok admission, ctx, s) =>
      match Quota.reserve g.config.quota t.seconds estimate ctx s.quota with
      | (.error refusal, ctx, quota) => (.error refusal, jobs, ctx, { s with quota := quota })
      | (.ok (), ctx, quota) => (.ok admission, jobs, ctx, { s with quota := quota })

/-- Settles a request. The result is the work left to the background, if there is any. -/
def settle (config : QuotaConfig) (outcome : Outcome) (ctx : Context) (s : Quota.State σ) :
    Except Refusal (Option Job) × Context × Quota.State σ :=
  if ctx.settled then (.ok none, ctx, s)
  else
    let ctx := { ctx with settled := true }
    match outcome with
    | .failed => match Quota.release config ctx s.counters with
      | (job, ctx, counters) => (.ok job, ctx, { s with counters := counters })
    | .succeeded cost =>
      match Quota.charge config (cost - ctx.reserved) ctx s.store with
      | (r, store) =>
        let ctx := { ctx with reserved := 0, selection := none }
        let s := { s with store := store }
        match r with
        | .ok () => (.ok none, ctx, s)
        | .error refusal => (.error refusal, ctx, s.record .reconcileFailure)

/-- What is counted of a delivery. -/
def delivered : Option Http.Reply → Event
  | none => .webhookFailed
  | some r => if r.failed then .webhookFailed else .webhookDelivered

/-- Does the work of the background. -/
def runJob {τ : Type} (send : Http.Transport τ) (job : Job) (s : Quota.State σ) (t : τ) :
    Quota.State σ × τ :=
  match job with
  | .refundSelection user selection amount => (Quota.refundSelection user selection amount s, t)
  | .refundWallet who amount => (Quota.refundWallet who amount s, t)
  | .deliver url report => match send ⟨url, none, report⟩ t with
    | (reply, t) => (s.record (delivered reply), t)

end Gateway

end Turnstile
