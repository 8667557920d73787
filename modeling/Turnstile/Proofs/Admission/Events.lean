import Turnstile.Proofs.Admission.Charges

/-!
# What admission and settlement count

The counters belong to the operators, and what they are worth is that they add up with what the
clients were told.  The events are scattered over the gate, the dispatch, the two kinds of quota,
the settlement and the background; here is said of each of them, once and completely, what it
counts and what its outcome is then.

* `Gateway.enforce_counted`, `route_counted` — the gate and the dispatch;
* `Quota.carryOut_counted`, `reserveFromSubscription_counted` — the two kinds of reservation;
* `Gateway.settle_counted`, `runJob_counted` — the settlement and the background.
-/

set_option autoImplicit false

namespace Turnstile

/-! ## Counts -/

namespace Counters

/-- How often an event was counted. -/
def count (c : Counters) : Event → Nat
  | .moderationChecked => c.moderationChecked
  | .moderationBlocked => c.moderationBlocked
  | .moderationProviderFailure => c.moderationProviderFailures
  | .probeRejected => c.probeRejected
  | .channelSelected => c.channelsSelected
  | .channelPoolExhausted => c.channelPoolExhausted
  | .quotaReserved => c.quotaReserved
  | .quotaTrusted => c.quotaTrusted
  | .quotaRejected => c.quotaRejected
  | .quotaReturned => c.quotaReturned
  | .reconcileFailure => c.reconcileFailures
  | .webhookDelivered => c.webhookDelivered
  | .webhookFailed => c.webhookFailed

theorem count_record (c : Counters) (e e' : Event) :
    (c.record e).count e' = c.count e' + [e].count e' := by
  cases e <;> cases e' <;> rfl

theorem count_recordAll (c : Counters) (es : List Event) (e : Event) :
    (c.recordAll es).count e = c.count e + es.count e := by
  induction es generalizing c with
  | nil => rfl
  | cons e' rest ih =>
    have hrest := ih (c.record e')
    rw [count_record] at hrest
    rw [← List.singleton_append, List.count_append]
    exact hrest.trans (Nat.add_assoc _ _ _)

end Counters

/-! ## Answers -/

/-- What a refusal is about, as far as it is counted. -/
inductive Ground where
  | violation
  | probe
  | pool
  /-- The reservation was refused or failed. -/
  | quota
  | other
  deriving DecidableEq, Repr

/-- What a refusal is about. -/
def Refusal.ground : Refusal → Ground
  | policyViolation _ => .violation
  | probe => .probe
  | channelPoolExhausted _ _ => .pool
  | walletExhausted _ _ | subscriptionExhausted | tokenQuota _ | dataUpdate _ | dataQuery _ =>
    .quota
  | moderationUnavailable _ _ | noChannel _ _ | autoGroupsDisabled | channelSelection _ => .other

/-- What a call for admission comes to. -/
abbrev Answer := Except Refusal Admission

/-- The call was successful. -/
@[simp] def admitted : Answer → Bool
  | .ok _ => true
  | .error _ => false

/-- The answer is a refusal on such a ground. -/
@[simp] def refusedOver (ground : Ground) : Answer → Bool
  | .ok _ => false
  | .error refusal => refusal.ground = ground

/-- The counters account for the answers that were given. -/
structure Counters.AccountFor (c : Counters) (answers : List Answer) : Prop where
  judged : c.moderationBlocked + c.moderationProviderFailures ≤ c.moderationChecked
  reported : c.webhookDelivered + c.webhookFailed ≤ c.moderationBlocked
  selected : c.channelsSelected =
    answers.countP admitted + answers.countP (refusedOver .quota)
  reserved : c.quotaReserved + c.quotaTrusted + c.quotaRejected ≤ c.channelsSelected
  returned : c.quotaReturned ≤ c.quotaReserved
  probes : c.probeRejected = answers.countP (refusedOver .probe)
  exhausted : c.channelPoolExhausted = answers.countP (refusedOver .pool)
  blocked : c.moderationBlocked = answers.countP (refusedOver .violation)

/-! ## What is left to the background -/

/-- The work is the delivery of a report. -/
def Job.isDelivery : Job → Bool
  | deliver _ _ => true
  | _ => false

/-- The work gives back a reservation. -/
def Job.isRefund : Job → Bool
  | deliver _ _ => false
  | _ => true

/-- What a settlement leaves to the background. -/
def leftBehind : Except Refusal (Option Job) → List Job
  | .ok job => job.toList
  | .error _ => []

/-- The context holds a reservation. -/
def Context.holds (ctx : Context) : Bool := ctx.reserved ≠ 0

/-! ## What the parts of a call count -/

namespace Gateway

variable {σ κ π : Type} {g : Gateway κ π} {t : Moment} {request : RelayRequest}
  {s s' : GatewayState σ κ π}

/-- Only a verdict that blocks is reported. -/
theorem reports_counted (verdict : Moderation.Verdict) (address : Option String)
    (report : List String → Json) :
    let jobs := match verdict, address with
      | .blocked categories, some url => [Job.deliver url (report categories)]
      | _, _ => []
    jobs.countP Job.isDelivery ≤ verdict.events.count .moderationBlocked ∧
      jobs.countP Job.isRefund = 0 := by
  cases verdict <;> cases address <;> simp [Job.isDelivery, Job.isRefund]
  simp [Moderation.Verdict.events]

/-- The gate counts by its verdict, and leaves a report to the background only if it blocks. -/
theorem enforce_counted {mode : RelayMode} {format : RelayFormat} {counted : Option String}
    {inbound : Inbound} {r : Except Refusal Unit} {jobs : List Job}
    (h : g.enforce t mode format request counted inbound s = (r, jobs, s')) :
    ∃ verdict : Moderation.Verdict,
      s'.quota.counters = s.quota.counters.recordAll verdict.events ∧
      jobs.countP Job.isDelivery ≤ verdict.events.count .moderationBlocked ∧
      jobs.countP Job.isRefund = 0 ∧
      r = match verdict.refusal? with
        | some refusal => .error refusal
        | none => .ok () := by
  unfold enforce at h
  generalize g.gate.examine mode format request counted inbound s.moderation = examined at h
  obtain ⟨verdict, moderation⟩ := examined
  dsimp only at h
  refine ⟨verdict, ?_⟩
  cases hrefusal : verdict.refusal? with
  | some refusal =>
    rw [hrefusal] at h
    cases h
    obtain ⟨hdeliveries, hrefunds⟩ := reports_counted verdict _ _
    exact ⟨rfl, hdeliveries, hrefunds, rfl⟩
  | none =>
    rw [hrefusal] at h
    cases h
    obtain ⟨hdeliveries, hrefunds⟩ := reports_counted verdict _ _
    exact ⟨rfl, hdeliveries, hrefunds, rfl⟩

/-- What a dispatch counts. -/
inductive RouteCounts : Answer → List Event → Prop where
  | selected (admission : Admission) : RouteCounts (.ok admission) [.channelSelected]
  | exhausted (refusal : Refusal) : refusal.ground = .pool →
    RouteCounts (.error refusal) [.channelPoolExhausted]
  | refused (refusal : Refusal) : refusal.ground = .other → RouteCounts (.error refusal) []

theorem route_counted {retry : Nat} {ctx ctx' : Context} {r : Answer}
    (h : g.route t request retry ctx s = (r, ctx', s')) :
    ∃ es, s'.quota.counters = s.quota.counters.recordAll es ∧ RouteCounts r es := by
  unfold route at h
  dsimp only at h
  split at h
  · rename_i e _ _ _
    split at h
    · cases h
      exact ⟨_, rfl, .exhausted _ rfl⟩
    · rename_i hpool
      cases h
      refine ⟨[], rfl, .refused _ ?_⟩
      cases e with
      | allDisabled group model => exact absurd rfl (hpool group model)
      | autoGroupsDisabled => rfl
      | satisfier reason => rfl
  · cases h
    exact ⟨[], rfl, .refused _ rfl⟩
  · cases h
    exact ⟨_, rfl, .selected _⟩

end Gateway

namespace Quota

variable {σ : Type} [UserStore σ] {config : QuotaConfig} {ctx ctx' : Context} {s s' : State σ}
  {r : Except Refusal Unit}

/-- What a reservation counts, with what the context then holds. -/
inductive ReserveCounts (ctx ctx' : Context) : Except Refusal Unit → List Event → Prop where
  | reserved : ReserveCounts ctx ctx' (.ok ()) [.quotaReserved]
  | trusted : ctx'.reserved = 0 → ReserveCounts ctx ctx' (.ok ()) [.quotaTrusted]
  | free : ctx'.reserved = 0 → ReserveCounts ctx ctx' (.ok ()) []
  | rejected (refusal : Refusal) : refusal.ground = .quota → ctx'.reserved = ctx.reserved →
    ReserveCounts ctx ctx' (.error refusal) [.quotaRejected]
  | failed (refusal : Refusal) : refusal.ground = .quota → ctx'.reserved = ctx.reserved →
    ReserveCounts ctx ctx' (.error refusal) []

theorem reserveFromSubscription_counted {now amount : Int}
    (h : reserveFromSubscription now amount ctx s = (r, ctx', s')) :
    ∃ es, s'.counters = s.counters.recordAll es ∧ ReserveCounts ctx ctx' r es := by
  unfold reserveFromSubscription at h
  split at h
  · cases h
    exact ⟨_, rfl, .reserved⟩
  · cases h
    exact ⟨_, rfl, .rejected _ rfl rfl⟩
  · cases h
    exact ⟨[], rfl, .failed _ rfl rfl⟩

theorem carryOut_counted {p : Plan} (hp : 0 ≤ p.amount) (h : carryOut p ctx s = (r, ctx', s')) :
    ∃ es, s'.counters = s.counters.recordAll es ∧ ReserveCounts ctx ctx' r es := by
  unfold carryOut at h
  split at h
  · cases h
    exact ⟨_, rfl, .trusted rfl⟩
  · dsimp only at h
    split at h
    · rename_i hle
      cases h
      exact ⟨[], rfl, .free (Int.le_antisymm hle hp)⟩
    · split at h
      · cases h
        exact ⟨_, rfl, .reserved⟩
      · cases h
        exact ⟨_, rfl, .rejected _ rfl rfl⟩
      · cases h
        exact ⟨[], rfl, .failed _ rfl rfl⟩

theorem plan_refused {amount balance : Int} {refusal : Refusal}
    (h : plan config ctx amount balance = .error refusal) : refusal.ground = .quota := by
  unfold plan at h
  split at h
  · cases h
    rfl
  · split at h <;> cases h

/-- A settlement gives back at most once what the context held, and gives it back in the
background. -/
structure SettleCounts (ctx ctx' : Context) (jobs : List Job) (es : List Event) : Prop where
  counted : es = [] ∨ es = [.reconcileFailure]
  deliveries : jobs.countP Job.isDelivery = 0
  refunds : jobs.countP Job.isRefund + ctx'.holds.toNat ≤ ctx.holds.toNat

theorem release_counted {counters counters' : Counters} {job : Option Job}
    (h : release config ctx counters = (job, ctx', counters')) :
    ∃ es, counters' = counters.recordAll es ∧ SettleCounts ctx ctx' job.toList es := by
  unfold release at h
  dsimp only at h
  split at h
  · rename_i hnone
    cases h
    exact ⟨[], rfl, .inl rfl, rfl, by simp [Context.holds, hnone]⟩
  · rename_i hheld
    split at h
    · split at h
      · cases h
        exact ⟨_, rfl, .inr rfl, rfl, by simp [Context.holds]⟩
      · cases h
        exact ⟨[], rfl, .inl rfl, rfl, by simp [Context.holds, hheld, Job.isRefund]⟩
    · cases h
      exact ⟨[], rfl, .inl rfl, rfl, by simp [Context.holds, hheld, Job.isRefund]⟩

theorem count_refunded {ε : Type} (r : Except ε Unit) :
    refunded r = .quotaReturned ∨ refunded r = .reconcileFailure := by
  cases r with
  | ok u => exact .inl rfl
  | error e => exact .inr rfl

end Quota

namespace Gateway

variable {σ : Type} [UserStore σ]

theorem settle_counted {config : QuotaConfig} {ctx ctx' : Context} {s s' : Quota.State σ}
    {outcome : Outcome} {settled : Except Refusal (Option Job)}
    (h : settle config outcome ctx s = (settled, ctx', s')) :
    ∃ es, s'.counters = s.counters.recordAll es ∧
      Quota.SettleCounts ctx ctx' (leftBehind settled) es := by
  unfold settle at h
  split at h
  · cases h
    exact ⟨[], rfl, .inl rfl, rfl, Nat.le_of_eq (Nat.zero_add _)⟩
  · dsimp only at h
    split at h
    · generalize hrelease : Quota.release config { ctx with settled := true } s.counters = done at h
      obtain ⟨job, ctx₁, counters⟩ := done
      cases h
      obtain ⟨es, hcounters, hcounts⟩ := Quota.release_counted hrelease
      exact ⟨es, hcounters, hcounts.counted, hcounts.deliveries, hcounts.refunds⟩
    · split at h
      · cases h
        exact ⟨[], rfl, .inl rfl, rfl, by simp [leftBehind, Context.holds]⟩
      · cases h
        exact ⟨_, rfl, .inr rfl, rfl, by simp [leftBehind, Context.holds]⟩

/-- A piece of work counts one event: for a delivery what became of it, for a refund whether it went
through. -/
theorem runJob_counted {τ : Type} (send : Http.Transport τ) (job : Job)
    (s : Quota.State σ) (remote : τ) :
    ∃ e, (runJob send job s remote).1.counters = s.counters.record e ∧
      ((job.isDelivery = true ∧ job.isRefund = false ∧
          (e = .webhookDelivered ∨ e = .webhookFailed)) ∨
        (job.isDelivery = false ∧ job.isRefund = true ∧
          (e = .quotaReturned ∨ e = .reconcileFailure))) := by
  cases job with
  | refundSelection user selection amount =>
    exact ⟨_, rfl, .inr ⟨rfl, rfl, Quota.count_refunded _⟩⟩
  | refundWallet who amount => exact ⟨_, rfl, .inr ⟨rfl, rfl, Quota.count_refunded _⟩⟩
  | deliver url report =>
    refine ⟨_, rfl, .inl ⟨rfl, rfl, ?_⟩⟩
    cases (send ⟨url, none, report⟩ remote).1 with
    | none => exact .inr rfl
    | some reply => cases hfailed : reply.failed <;> simp [delivered, hfailed]

end Gateway

end Turnstile
