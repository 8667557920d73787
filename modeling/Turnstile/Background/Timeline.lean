import Turnstile.Background.Loop

/-!
# Background work in time

A timeline holds a pool, loops, and a world that the loops work on. Time stands still except when
it is told to run; it then goes from moment to moment at which something has been set, and at each
moment everything happens that is due. Main statement: `now_instant`, that a step ends at its
moment, so that running ends.
-/

namespace Turnstile.Background

/-- A loop with a name, and what its turns do to the world. A silent loop is not seen. -/
structure Keeper (ω : Type) where
  id : String
  silent : Bool
  act : ω → ω
  loop : Loop

/-- Background work: the time in milliseconds, the next number, the work, what has been seen, the
latest first, and the world. -/
structure Timeline (ω : Type) where
  now : Nat := 0
  order : Nat := 0
  pool : Pool
  keepers : List (Keeper ω) := []
  seen : List (Nat × Happening) := []
  world : ω

namespace Timeline

variable {ω : Type}

/-- Notes what is seen. -/
def note (hs : List Happening) (t : Timeline ω) : Timeline ω :=
  { t with seen := (hs.map fun h => (t.now, h)).reverse ++ t.seen }

/-- Lets waiting tasks start. -/
def startTasks (t : Timeline ω) : Timeline ω :=
  match t.pool.startWaiting t.now t.order with
  | (pool, hs, order) => { t with pool := pool, order := order }.note hs

/-- Finishes a running task. -/
def finishTask (r : Running) (t : Timeline ω) : Timeline ω :=
  match t.pool.finish r with
  | (pool, hs) => { t with pool := pool }.note hs

/-- Puts a loop in the place of the one of its name. -/
def setKeeper (k : Keeper ω) (t : Timeline ω) : Timeline ω :=
  { t with keepers := t.keepers.map fun j => if j.id = k.id then k else j }

/-- What is seen of a loop. -/
def noteLoop (k : Keeper ω) (ended began : Bool) (t : Timeline ω) : Timeline ω :=
  if k.silent then t
  else t.note ((if ended then [.done k.id] else []) ++ (if began then [.ticked k.id] else []))

/-- A loop's moment has come. -/
def turn (k : Keeper ω) (t : Timeline ω) : Timeline ω :=
  match k.loop.arrive t.now t.order with
  | (loop, ended, began) =>
    let t := t.setKeeper { k with loop := loop }
    let t := { t with order := t.order + 1, world := if began then k.act t.world else t.world }
    t.noteLoop k ended began

/-- What is due at a moment, each with its number. -/
def dueAt (moment : Nat) (t : Timeline ω) : List (Nat × (Running ⊕ Keeper ω)) :=
  let tasks := (t.pool.running.filter fun r => r.until_ = moment).map fun r => (r.order, Sum.inl r)
  let loops := (t.keepers.filter fun k => k.loop.due? = some moment).map fun k =>
    (k.loop.order, Sum.inr k)
  (tasks ++ loops).mergeSort fun a b => a.1 ≤ b.1

/-- What is due happens, one after the other. -/
def happen (due : List (Nat × (Running ⊕ Keeper ω))) (t : Timeline ω) : Timeline ω :=
  due.foldl (fun t d => match d.2 with
    | .inl r => t.finishTask r
    | .inr k => t.turn k) t

/-- Everything that is due at a moment happens; then tasks start for which there is a place. -/
def instant (moment : Nat) (t : Timeline ω) : Timeline ω :=
  (happen (t.dueAt moment) { t with now := moment }).startTasks

/-- The next moment for which something has been set. -/
def next? (t : Timeline ω) : Option Nat :=
  ((t.pool.running.map (·.until_) ++ t.keepers.filterMap (·.loop.due?)).filter (t.now < ·)).min?

/-- Noting takes no time. -/
@[simp] theorem now_note (hs : List Happening) (t : Timeline ω) : (t.note hs).now = t.now := rfl

/-- Starting tasks takes no time. -/
@[simp] theorem now_startTasks (t : Timeline ω) : t.startTasks.now = t.now := rfl

/-- Finishing a task takes no time. -/
@[simp] theorem now_finishTask (r : Running) (t : Timeline ω) : (t.finishTask r).now = t.now := rfl

/-- Noting what a loop did takes no time. -/
@[simp] theorem now_noteLoop (k : Keeper ω) (ended began : Bool) (t : Timeline ω) :
    (t.noteLoop k ended began).now = t.now := by
  unfold noteLoop
  split <;> rfl

/-- A turn begins or ends at the moment for which it was set. -/
@[simp] theorem now_turn (k : Keeper ω) (t : Timeline ω) : (t.turn k).now = t.now := by
  simp [turn, setKeeper]

/-- What is due happens at the moment for which it was set. -/
theorem now_happen (due : List (Nat × (Running ⊕ Keeper ω))) (t : Timeline ω) :
    (happen due t).now = t.now := by
  induction due generalizing t with
  | nil => rfl
  | cons d r ih =>
    obtain ⟨n, e⟩ := d
    cases e with
    | inl x => exact (ih _).trans (now_finishTask x t)
    | inr k => exact (ih _).trans (now_turn k t)

/-- A step ends at its moment. -/
theorem now_instant (moment : Nat) (t : Timeline ω) : (t.instant moment).now = moment := by
  simp [instant, now_happen]

/-- Runs from moment to moment while `goOn` holds, not beyond `limit`. -/
def runWhile (goOn : Timeline ω → Bool) (limit : Nat) (t : Timeline ω) : Timeline ω :=
  if goOn t then
    match t.next? with
    | none => t
    | some moment =>
      if t.now < moment ∧ moment ≤ limit then runWhile goOn limit (t.instant moment) else t
  else t
termination_by limit - t.now
decreasing_by
  rw [now_instant]
  omega

/-- Lets time run. -/
def advance (millis : Nat) (t : Timeline ω) : Timeline ω :=
  let last := t.now + millis
  { t.runWhile (fun _ => true) last with now := last }

/-- Submits a task. -/
def submit (id : String) (millis : Nat) (t : Timeline ω) : Timeline ω :=
  { t with pool := t.pool.submit ⟨id, millis⟩ }.startTasks

/-- Waits until no task is left. -/
def drain (t : Timeline ω) : Timeline ω :=
  t.runWhile (fun t => t.pool.inFlight ≠ 0) (t.pool.horizon t.now)

/-- Drops a loop where it stands, even within a turn. -/
def abort (id : String) (t : Timeline ω) : Timeline ω :=
  { t with keepers := t.keepers.filter fun k => k.id ≠ id }

/-- Starts a loop, in place of one of the same name. The first turn comes at once or after one
interval. -/
def start (id : String) (silent : Bool) (act : ω → ω) (period work : Nat) (atOnce : Bool)
    (t : Timeline ω) : Timeline ω :=
  let k : Keeper ω := ⟨id, silent, act, .create t.now period work t.order⟩
  let t := t.abort id
  let t := { t with keepers := t.keepers ++ [k], order := t.order + 1 }
  if atOnce then t.turn { k with loop := { k.loop with phase := .waiting t.now } } else t

/-- Cancels a loop. -/
def cancel (id : String) (t : Timeline ω) : Timeline ω :=
  { t with keepers := t.keepers.map fun k =>
      if k.id = id then { k with loop := k.loop.cancel } else k }

/-- A loop of that name has not stopped. -/
def alive (id : String) (t : Timeline ω) : Bool :=
  t.keepers.any fun k => k.id == id && k.loop.phase != .over

/-- The last moment for which something has been set for a loop. -/
def lastOf (id : String) (t : Timeline ω) : Nat :=
  (t.keepers.filter fun k => k.id == id).foldl (fun n k => max n (k.loop.due?.getD n)) t.now

/-- Cancels a loop and waits until its turn has ended. -/
def stop (id : String) (t : Timeline ω) : Timeline ω :=
  let t := t.cancel id
  (t.runWhile (fun t => t.alive id) (t.lastOf id)).abort id

end Timeline

end Turnstile.Background
