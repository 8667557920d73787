import Turnstile.Background.Pool

/-!
# Periodic work

A loop does its work in regular intervals. Work that takes longer than the interval delays the
next turn: it follows at once, and if it is late by more than five milliseconds the intervals are
counted on from there. A loop that is cancelled ends its turn and stops.
-/

namespace Turnstile.Background

/-- What a loop is at. -/
inductive Phase where
  /-- The next turn has been set for a moment. -/
  | waiting (deadline : Nat)
  /-- A turn lasts until a moment; the next has been set for another. -/
  | working (until_ deadline : Nat)
  | over
  deriving DecidableEq, Repr

/-- A loop: interval, time of one turn, and what it is at. -/
structure Loop where
  period : Nat
  work : Nat
  phase : Phase
  order : Nat
  cancelled : Bool := false
  deriving DecidableEq, Repr

namespace Loop

/-- How late a turn may be without the intervals being counted anew. -/
def tolerance : Nat := 5

/-- The moment of the turn after one that was set for `deadline` and comes now. -/
def following (now deadline period : Nat) : Nat :=
  if deadline + tolerance < now then now + period else deadline + period

/-- A turn begins. -/
def begin_ (now deadline order : Nat) (l : Loop) : Loop :=
  let next := following now deadline l.period
  { l with
    order := order
    phase := if l.work = 0 then .waiting next else .working (now + l.work) next }

/-- A loop that is about to start now, with its first turn after one interval. -/
def create (now period work order : Nat) : Loop :=
  { period := max period 1, work := work, order := order, phase := .waiting (now + max period 1) }

/-- When something happens to a loop. -/
def due? (l : Loop) : Option Nat :=
  match l.phase with
  | .waiting deadline => some deadline
  | .working u _ => some u
  | .over => none

/-- The moment has come that a loop waited for. The results are the loop, whether a turn ended and
whether one began. -/
def arrive (now order : Nat) (l : Loop) : Loop × Bool × Bool :=
  match l.phase with
  | .over => (l, false, false)
  | .waiting deadline => (l.begin_ now deadline order, false, true)
  | .working _ deadline =>
    if l.cancelled then ({ l with phase := .over }, true, false)
    else if deadline ≤ now then (l.begin_ now deadline order, true, true)
    else ({ l with phase := .waiting deadline, order := order }, true, false)

/-- Cancels a loop. A turn that has begun goes on to its end. -/
def cancel (l : Loop) : Loop :=
  match l.phase with
  | .working _ _ => { l with cancelled := true }
  | _ => { l with cancelled := true, phase := .over }

end Loop

end Turnstile.Background
