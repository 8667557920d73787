import Turnstile.Word

/-!
# Quota windows

A window of an entitlement holds an amount that is used up and filled again at its end. Points in
time stand in seconds, or, above 10^12, in milliseconds; the clock counts in seconds and is
brought into the unit of what it is compared with.

A window whose end has passed is stale. `Window.rollOver` fills it and moves its end to the first
point of its grid, the end plus whole periods, that lies after now: one step, however many periods
have passed.
-/

namespace Turnstile.Subscription

/-- Points in time above this one are milliseconds. -/
def millisecondsAbove : Int := 1000000000000

/-- The clock's seconds in the unit of `reference`. -/
def inUnitOf (reference now : Int) : Int :=
  if reference > millisecondsAbove then Word.mul now 1000 else now

/-- The first end of a window after `now`: whole periods after `resetAt`, or one period from now
where no end has been set. A window without a period stays as it is. -/
def advance (resetAt now period : Int) : Int :=
  if period ≤ 0 then resetAt
  else
    let at_ := inUnitOf resetAt now
    let step := inUnitOf resetAt period
    if resetAt ≤ 0 then Word.add at_ step
    else if at_ ≤ resetAt then resetAt
    else
      let periods := (at_ - resetAt) / step + 1
      Word.add resetAt (Word.mul periods step)

/-- A quota window: what it holds when full, what is left, and when it is filled again. -/
structure Window where
  total : Int
  available : Int
  resetAt : Int
  deriving DecidableEq, Repr

/-- The window of an entitlement that states none. -/
def Window.empty : Window := ⟨0, 0, 0⟩

namespace Window

/-- The end of the window has passed. -/
def stale (w : Window) (now : Int) : Bool := w.resetAt < inUnitOf w.resetAt now

/-- A stale window filled again, its end moved past `now`; any other as it is. -/
def rollOver (w : Window) (now period : Int) : Window :=
  if w.stale now then ⟨w.total, w.total, advance w.resetAt now period⟩ else w

end Window

/-- The period of the short window, five hours. -/
def fiveHours : Int := 18000

/-- The period of the long window, seven days. -/
def sevenDays : Int := 604800

/-- The time during which an entitlement counts. -/
structure Term where
  startAt : Int
  endAt : Int
  autoRenew : Bool
  deriving DecidableEq, Repr

/-- The term of an entitlement that states none. -/
def Term.empty : Term := ⟨0, 0, false⟩

/-- `now` lies in the term. Both bounds have to be set, and each is compared in its own unit. -/
def Term.contains (t : Term) (now : Int) : Bool :=
  t.startAt != 0 && t.endAt != 0 &&
    t.startAt ≤ inUnitOf t.startAt now && inUnitOf t.endAt now ≤ t.endAt

end Turnstile.Subscription
