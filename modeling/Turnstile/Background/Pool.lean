/-!
# The pool of background tasks

A pool runs a limited number of tasks at a time; the others wait and start in the order in which
they were submitted. A task that has not ended by the time limit is cut off. The time for which a
task keeps its place is known from its start, so a running task is described by the moment at
which it gives it back.

What happens at one moment happens in the order in which it was set for that moment: `order`
numbers the settings.
-/

namespace Turnstile.Background

/-- What is seen of background work. -/
inductive Happening where
  | started (id : String)
  | ended (id : String)
  | ticked (id : String)
  | done (id : String)
  deriving DecidableEq, Repr

/-- What is seen, in writing. -/
def Happening.text : Happening → String
  | started id => "start " ++ id
  | ended id => "end " ++ id
  | ticked id => "tick " ++ id
  | done id => "done " ++ id

/-- A task and how many milliseconds it takes. -/
structure Task where
  id : String
  millis : Nat
  deriving DecidableEq, Repr

/-- A running task, and when it gives its place back. -/
structure Running where
  task : Task
  until_ : Nat
  order : Nat
  deriving DecidableEq, Repr

/-- A pool: its free places, its time limit, and its tasks. -/
structure Pool where
  free : Nat
  limit : Nat
  running : List Running := []
  waiting : List Task := []
  deriving DecidableEq, Repr

namespace Pool

/-- A pool with a number of places and a time limit in seconds, each at least one. -/
def create (places seconds : Nat) : Pool := { free := max places 1, limit := max seconds 1 * 1000 }

/-- How many tasks have been submitted and have not finished. -/
def inFlight (p : Pool) : Nat := p.running.length + p.waiting.length

/-- The time for which a task keeps its place. -/
def hold (p : Pool) (t : Task) : Nat := min t.millis p.limit

/-- The task ends of its own accord. -/
def endsInTime (p : Pool) (t : Task) : Bool := t.millis ≤ p.limit

/-- Starts tasks in their order, as far as there are places. A task that takes no time ends at
once. The results are the pool, what is seen, and the next number. -/
def startEach (now : Nat) : List Task → Nat → Pool → Pool × List Happening × Nat
  | [], order, p => ({ p with waiting := [] }, [], order)
  | t :: r, order, p =>
    if p.free = 0 then ({ p with waiting := t :: r }, [], order)
    else if t.millis = 0 then
      match startEach now r order p with
      | (p, seen, order) => (p, .started t.id :: .ended t.id :: seen, order)
    else
      let p := { p with free := p.free - 1, running := p.running ++ [⟨t, now + p.hold t, order⟩] }
      match startEach now r (order + 1) p with
      | (p, seen, order) => (p, .started t.id :: seen, order)

/-- Starts the tasks that wait, as far as there are places. -/
def startWaiting (now order : Nat) (p : Pool) : Pool × List Happening × Nat :=
  startEach now p.waiting order p

/-- Takes a task in. -/
def submit (t : Task) (p : Pool) : Pool := { p with waiting := p.waiting ++ [t] }

/-- Finishes a running task, whose place becomes free. -/
def finish (r : Running) (p : Pool) : Pool × List Happening :=
  ({ p with free := p.free + 1, running := p.running.filter fun s => s.order ≠ r.order },
    if p.endsInTime r.task then [.ended r.task.id] else [])

/-- A time by which all tasks have finished: as long as they take one after the other. -/
def horizon (now : Nat) (p : Pool) : Nat :=
  (p.running.map Running.task ++ p.waiting).foldr (fun t time => p.hold t + time) now

end Pool

end Turnstile.Background
