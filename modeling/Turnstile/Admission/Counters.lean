import Turnstile.Json.Basic

/-!
# Counters

What has happened at the gate, in numbers for operators. The numbers have no greatest one here, and
the counters that run have 64 bits: the two agree as long as each count stays below 2^64, which is
some centuries of counting at a thousand million events in a second.
-/

namespace Turnstile

/-- Counts of events. -/
structure Counters where
  moderationChecked : Nat := 0
  moderationBlocked : Nat := 0
  moderationProviderFailures : Nat := 0
  probeRejected : Nat := 0
  channelsSelected : Nat := 0
  channelPoolExhausted : Nat := 0
  quotaReserved : Nat := 0
  quotaTrusted : Nat := 0
  quotaRejected : Nat := 0
  quotaReturned : Nat := 0
  reconcileFailures : Nat := 0
  webhookDelivered : Nat := 0
  webhookFailed : Nat := 0
  deriving DecidableEq, Repr

/-- Events that are counted. -/
inductive Event where
  | moderationChecked
  | moderationBlocked
  | moderationProviderFailure
  | probeRejected
  | channelSelected
  | channelPoolExhausted
  | quotaReserved
  | quotaTrusted
  | quotaRejected
  | quotaReturned
  | reconcileFailure
  | webhookDelivered
  | webhookFailed
  deriving DecidableEq, Repr

namespace Counters

/-- Counts an event. -/
def record (c : Counters) : Event → Counters
  | .moderationChecked => { c with moderationChecked := c.moderationChecked + 1 }
  | .moderationBlocked => { c with moderationBlocked := c.moderationBlocked + 1 }
  | .moderationProviderFailure =>
    { c with moderationProviderFailures := c.moderationProviderFailures + 1 }
  | .probeRejected => { c with probeRejected := c.probeRejected + 1 }
  | .channelSelected => { c with channelsSelected := c.channelsSelected + 1 }
  | .channelPoolExhausted => { c with channelPoolExhausted := c.channelPoolExhausted + 1 }
  | .quotaReserved => { c with quotaReserved := c.quotaReserved + 1 }
  | .quotaTrusted => { c with quotaTrusted := c.quotaTrusted + 1 }
  | .quotaRejected => { c with quotaRejected := c.quotaRejected + 1 }
  | .quotaReturned => { c with quotaReturned := c.quotaReturned + 1 }
  | .reconcileFailure => { c with reconcileFailures := c.reconcileFailures + 1 }
  | .webhookDelivered => { c with webhookDelivered := c.webhookDelivered + 1 }
  | .webhookFailed => { c with webhookFailed := c.webhookFailed + 1 }

/-- Counts events one after the other. -/
def recordAll (c : Counters) (es : List Event) : Counters := es.foldl record c

/-- The counts under their names. -/
def named (c : Counters) : List (String × Nat) :=
  [("moderation_checked", c.moderationChecked), ("moderation_blocked", c.moderationBlocked),
   ("moderation_provider_failures", c.moderationProviderFailures),
   ("probe_rejected", c.probeRejected), ("channels_selected", c.channelsSelected),
   ("channel_pool_exhausted", c.channelPoolExhausted), ("quota_reserved", c.quotaReserved),
   ("quota_trusted", c.quotaTrusted), ("quota_rejected", c.quotaRejected),
   ("quota_returned", c.quotaReturned), ("reconcile_failures", c.reconcileFailures),
   ("webhook_delivered", c.webhookDelivered), ("webhook_failed", c.webhookFailed)]

end Counters

end Turnstile
