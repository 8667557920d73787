import Turnstile.Background.Timeline
import Turnstile.Dispatch.Registry
import Turnstile.Subscription.Ledger

/-!
# Upkeep

Two things are kept in order in the background: the registry is swept of entries whose time is
over, from the first time that a channel is disabled, and the documents of the subscription group
are pruned. Both go by the clock of the gateway, which is set apart from the time in which the
loops run.
-/

namespace Turnstile.Background

/-- What upkeep works on: the clock in milliseconds, the registry and the store. -/
structure Premises (σ : Type) where
  clock : Nat
  registry : Registry
  store : σ

/-- A timeline with the settings of its upkeep. -/
structure Upkeep (σ : Type) where
  timeline : Timeline (Premises σ)
  sweepSeconds : Nat
  group : String
  sweeperStarted : Bool := false

/-- The name of the sweeping loop. -/
def sweeperName : String := "channel_disable_sweep"

/-- The name of the pruning loop. -/
def resetName : String := "subscription_reset_sweep"

namespace Upkeep

variable {σ : Type}

/-- Sweeps the registry. -/
def sweep (p : Premises σ) : Premises σ := { p with registry := p.registry.sweep p.clock }

/-- Changes the timeline. -/
def onTimeline (f : Timeline (Premises σ) → Timeline (Premises σ)) (u : Upkeep σ) : Upkeep σ :=
  { u with timeline := f u.timeline }

/-- Changes what the loops work on. -/
def onPremises (f : Premises σ → Premises σ) (u : Upkeep σ) : Upkeep σ :=
  u.onTimeline fun t => { t with world := f t.world }

/-- Starts the sweeping loop. Only the first call has an effect. -/
def startSweeper (u : Upkeep σ) : Upkeep σ :=
  if u.sweeperStarted then u
  else
    { u with sweeperStarted := true }.onTimeline
      (·.start sweeperName true sweep (max u.sweepSeconds 1 * 1000) 0 false)

/-- Disables a channel for some nanoseconds, which starts the sweeping loop. The result is the end
of the time. -/
def disable (channel : Int) (nanos : Nat) (reason : String) (u : Upkeep σ) : Nat × Upkeep σ :=
  let p := u.timeline.world
  match p.registry.disable p.clock channel nanos reason with
  | (expiresAt, registry) =>
    (expiresAt, (u.onPremises fun p => { p with registry := registry }).startSweeper)

/-- Stops the sweeping loop for good. -/
def shutDown (u : Upkeep σ) : Upkeep σ := u.onTimeline (·.stop sweeperName)

/-- Moves the clock and lets time run. -/
def advance (millis : Nat) (u : Upkeep σ) : Upkeep σ :=
  (u.onPremises fun p => { p with clock := p.clock + millis }).onTimeline (·.advance millis)

variable [UserStore σ]

/-- Prunes the documents of the group. -/
def resetAll (group : String) (p : Premises σ) : Premises σ :=
  { p with store := (Subscription.resetAll group (p.clock / 1000 : Nat) p.store).2 }

/-- Starts pruning, at once and then in intervals. -/
def startReset (id : String) (period : Nat) (u : Upkeep σ) : Upkeep σ :=
  u.onTimeline (·.start id true (resetAll u.group) period 0 true)

end Upkeep

end Turnstile.Background
