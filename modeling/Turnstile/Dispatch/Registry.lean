import Turnstile.Word
import Turnstile.Rows
import Turnstile.Text.Cut
import Turnstile.Calendar
import Turnstile.Json.Basic

/-!
# Disabled channels

A channel that misbehaved is disabled for some time. The registry holds until when and why, in
milliseconds; the latest order about a channel counts. An entry whose time is over has no effect
any more: it goes when it is next asked for, or with the next sweep.

Asking takes two steps, since others may work on the registry in between: a look, which answers
unless it meets an entry whose time is over, and then a removal, which looks again.
-/

namespace Turnstile

/-- Until when a channel is disabled, and why. -/
structure Disabled where
  expiresAt : Nat
  reason : String
  deriving DecidableEq, Repr

/-- The written form of the end, or its number where the calendar has none. -/
def Disabled.expiry (d : Disabled) : String :=
  (Calendar.rfc3339? (d.expiresAt * 1000000)).getD (Decimal.nat d.expiresAt)

/-- An entry as JSON. -/
def Disabled.toJson (d : Disabled) : Json :=
  .object [("expire_at_ms", .int d.expiresAt), ("reason", .text d.reason),
    ("rfc3339", .text d.expiry)]

/-- The entries of disabled channels. -/
abbrev Registry := Rows Disabled

namespace Registry

/-- How long a channel is disabled where no time is given, in milliseconds. -/
def defaultMillis : Nat := 300000

/-- How many bytes of a reason are kept. -/
def maxReasonBytes : Nat := 256

/-- The end of a time of `nanos` nanoseconds from now. -/
def expiryOf (now nanos : Nat) : Nat :=
  let millis := if nanos = 0 then defaultMillis else nanos / 1000000
  Word.addUnsigned now (min Word.greatestUnsigned millis)

/-- Disables a channel. The result is the end of the time. -/
def disable (now : Nat) (channel : Int) (nanos : Nat) (reason : String) (r : Registry) :
    Nat × Registry :=
  let expiresAt := expiryOf now nanos
  (expiresAt, r.put channel ⟨expiresAt, Text.cutBytes maxReasonBytes reason⟩)

/-- Enables a channel. The result tells whether there was an entry. -/
def enable (channel : Int) (r : Registry) : Bool × Registry :=
  ((r.find? channel).isSome, r.erase channel)

/-- What a look at a channel finds. -/
inductive Look where
  | enabled
  | disabled (d : Disabled)
  | over
  deriving DecidableEq, Repr

/-- Looks at the entry of a channel. -/
def look (now : Nat) (channel : Int) (r : Registry) : Look :=
  match r.find? channel with
  | none => .enabled
  | some d => if now < d.expiresAt then .disabled d else .over

/-- Looks again and removes the entry if its time is over. -/
def removeIfOver (now : Nat) (channel : Int) (r : Registry) : Option Disabled × Registry :=
  match r.look now channel with
  | .enabled => (none, r)
  | .disabled d => (some d, r)
  | .over => (none, r.erase channel)

/-- The entry of a channel that is disabled; an entry whose time is over goes. -/
def info (now : Nat) (channel : Int) (r : Registry) : Option Disabled × Registry :=
  match r.look now channel with
  | .enabled => (none, r)
  | .disabled d => (some d, r)
  | .over => r.removeIfOver now channel

/-- Drops all entries whose time is over. -/
def sweep (now : Nat) (r : Registry) : Registry := r.filter fun e => now < e.2.expiresAt

end Registry

end Turnstile
