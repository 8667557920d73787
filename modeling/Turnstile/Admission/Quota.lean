import Turnstile.Config.Basic
import Turnstile.Admission.Context
import Turnstile.Admission.Counters
import Turnstile.Admission.Refusal
import Turnstile.Subscription.Ledger

/-!
# Quota of requests

Before a request is sent on, its estimated cost is reserved; afterwards the reservation is given
back or brought in line with the actual cost. Users of the subscription group pay for some
endpoints with their entitlements; everything else is paid from the wallet.

A wallet is reserved from in two steps, since others may work on the store in between: the balance
is looked at, which leads to a plan, and the plan is carried out by a debit that fails if too
little is left by then. A wallet with more than the trusted balance is not debited if its token
has as much; such a request is charged only when it is settled.

A reservation is given back in the background, as a `Job`.
-/

namespace Turnstile

/-- Work that is done in the background. -/
inductive Job where
  /-- Gives back what was reserved from an entitlement. -/
  | refundSelection (user : Int) (selection : Subscription.Selection) (amount : Int)
  /-- Gives back what was reserved from a wallet. -/
  | refundWallet (who : Spender) (amount : Int)
  /-- Delivers a report to an address. -/
  | deliver (url : String) (report : Json)

namespace Quota

/-- What reserving and settling work on. -/
structure State (σ : Type) where
  store : σ
  counters : Counters

namespace State

variable {σ : Type}

/-- Counts an event. -/
def record (s : State σ) (e : Event) : State σ := { s with counters := s.counters.record e }

end State

/-- The request is paid for with an entitlement. -/
def usesSubscription (config : QuotaConfig) (ctx : Context) : Bool :=
  ctx.userGroup == config.subscriptionGroup && (ctx.claudeBeta || ctx.mode == .responses)

/-- What the balance of a wallet leads to. -/
inductive Plan where
  /-- Nothing is reserved. -/
  | trust (balance : Int)
  | reserve (balance amount : Int)
  deriving DecidableEq, Repr

/-- The plan for a request, by the balance of the wallet. -/
def plan (config : QuotaConfig) (ctx : Context) (amount balance : Int) : Except Refusal Plan :=
  if balance ≤ 0 || balance - amount < 0 then .error (.walletExhausted balance amount)
  else if config.trustQuota < balance &&
      (ctx.tokenUnlimited || config.trustQuota < ctx.tokenQuota) then .ok (.trust balance)
  else .ok (.reserve balance amount)

variable {σ : Type} [UserStore σ]

/-- Carries a plan out. -/
def carryOut (p : Plan) (ctx : Context) (s : State σ) :
    Except Refusal Unit × Context × State σ :=
  match p with
  | .trust balance =>
    (.ok (), { ctx with seenBalance := balance, reserved := 0 }, s.record .quotaTrusted)
  | .reserve balance amount =>
    let ctx := { ctx with seenBalance := balance }
    if amount ≤ 0 then (.ok (), { ctx with reserved := amount }, s)
    else match UserStore.debit ctx.spender amount s.store with
      | (.ok (), store) =>
        (.ok (), { ctx with reserved := amount }, { s with store := store }.record .quotaReserved)
      | (.error (.insufficientToken token remain required), store) =>
        (.error (.tokenQuota (StoreError.insufficientToken token remain required).message), ctx,
          { s with store := store }.record .quotaRejected)
      | (.error e, store) => (.error (.dataUpdate e.message), ctx, { s with store := store })

/-- Reserves from the wallet. -/
def reserveFromWallet (config : QuotaConfig) (amount : Int) (ctx : Context) (s : State σ) :
    Except Refusal Unit × Context × State σ :=
  match UserStore.balance ctx.user s.store with
  | (.error e, store) => (.error (.dataQuery e.message), ctx, { s with store := store })
  | (.ok balance, store) =>
    let s := { s with store := store }
    match plan config ctx amount balance with
    | .error refusal => (.error refusal, ctx, s.record .quotaRejected)
    | .ok p => carryOut p ctx s

/-- Reserves from the first usable entitlement. -/
def reserveFromSubscription (now amount : Int) (ctx : Context) (s : State σ) :
    Except Refusal Unit × Context × State σ :=
  match Subscription.reserve ctx.user now amount s.store with
  | (.ok selection, store) =>
    (.ok (), { ctx with selection := some selection, reserved := amount },
      { s with store := store }.record .quotaReserved)
  | (.error .exhausted, store) =>
    (.error .subscriptionExhausted, ctx, { s with store := store }.record .quotaRejected)
  | (.error e, store) => (.error (.dataUpdate e.message), ctx, { s with store := store })

/-- Reserves the estimated cost of a request; a negative estimate counts as nothing. `now` is the
clock in seconds. -/
def reserve (config : QuotaConfig) (now estimate : Int) (ctx : Context) (s : State σ) :
    Except Refusal Unit × Context × State σ :=
  let amount := max estimate 0
  if usesSubscription config ctx then reserveFromSubscription now amount ctx s
  else reserveFromWallet config amount ctx s

/-- Takes the reservation out of a context, to be given back in the background. Without one there
is nothing to do, so a second call does nothing. -/
def release (config : QuotaConfig) (ctx : Context) (counters : Counters) :
    Option Job × Context × Counters :=
  let amount := ctx.reserved
  let ctx := { ctx with reserved := 0 }
  if amount = 0 then (none, ctx, counters)
  else if usesSubscription config ctx then
    match ctx.selection with
    | none => (none, ctx, counters.record .reconcileFailure)
    | some selection =>
      (some (.refundSelection ctx.user selection amount), { ctx with selection := none }, counters)
  else (some (.refundWallet ctx.spender amount), ctx, counters)

/-- Charges what a request cost beyond its reservation; a negative `delta` gives back. -/
def charge (config : QuotaConfig) (delta : Int) (ctx : Context) (store : σ) :
    Except Refusal Unit × σ :=
  if delta = 0 then (.ok (), store)
  else if usesSubscription config ctx then
    match ctx.selection with
    | none => (.error (.dataUpdate "missing subscription selection"), store)
    | some selection => match Subscription.adjust ctx.user selection delta store with
      | (.ok (), store) => (.ok (), store)
      | (.error .exhausted, store) => (.error .subscriptionExhausted, store)
      | (.error e, store) => (.error (.dataUpdate e.message), store)
  else match UserStore.charge ctx.spender delta store with
    | (.ok (), store) => (.ok (), store)
    | (.error e, store) => (.error (.dataUpdate e.message), store)

/-- Counts whether a refund went through. -/
def refunded {ε : Type} (r : Except ε Unit) : Event :=
  match r with
  | .ok () => .quotaReturned
  | .error _ => .reconcileFailure

/-- Gives back what was reserved from an entitlement. -/
def refundSelection (user : Int) (selection : Subscription.Selection) (amount : Int)
    (s : State σ) : State σ :=
  match Subscription.adjust user selection (-amount) s.store with
  | (r, store) => { s with store := store }.record (refunded r)

/-- Gives back what was reserved from a wallet. -/
def refundWallet (who : Spender) (amount : Int) (s : State σ) : State σ :=
  match UserStore.charge who (-amount) s.store with
  | (r, store) => { s with store := store }.record (refunded r)

end Quota

end Turnstile
