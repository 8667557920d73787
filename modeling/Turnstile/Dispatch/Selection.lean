import Turnstile.Config.Basic
import Turnstile.Dispatch.Channel
import Turnstile.Dispatch.Registry

/-!
# Selecting a channel

A satisfier proposes channels for a group and a model; what it proposes while it is disabled is
skipped, and the satisfier is asked again without it, at most eight times. A request for the group
`auto` goes through the groups configured for that, one after the other, until one has a channel.
-/

namespace Turnstile

/-- A question to a satisfier: a channel for a group and a model, none of those excluded. -/
structure Query where
  group : String
  model : String
  retry : Nat
  excluded : List Int
  deriving DecidableEq, Repr

/-- The answer of a satisfier. -/
inductive Proposal where
  | channel (c : Channel)
  /-- No channel is configured. -/
  | nothing
  /-- Channels are configured, and all of them are excluded. -/
  | allFiltered
  | failed (reason : String)
  deriving DecidableEq, Repr

/-- What proposes channels. It may answer by a state of its own. -/
abbrev Satisfier (κ : Type) := Query → κ → Proposal × κ

/-- Why no channel was selected. -/
inductive DispatchError where
  | allDisabled (group model : String)
  | autoGroupsDisabled
  | satisfier (reason : String)
  deriving DecidableEq, Repr

/-- What is said of a selection that failed. -/
def DispatchError.message : DispatchError → String
  | .allDisabled group model =>
    "all candidate channels for group " ++ group ++ " model " ++ model ++
      " are temporarily disabled"
  | .autoGroupsDisabled => "auto groups is not enabled"
  | .satisfier reason => "channel satisfier failed: " ++ reason

/-- The channel selected, if one is configured at all, and the group that it serves. -/
structure Selected where
  channel : Option Channel
  group : String
  deriving DecidableEq, Repr

/-- A selection as JSON. -/
def Selected.toJson (s : Selected) : Json :=
  .object [("channel", match s.channel with
    | some c => c.toJson
    | none => .null), ("group", .text s.group)]

/-- A question as JSON, the channels that are excluded in the order of their numbers. -/
def Query.toJson (q : Query) : Json :=
  .array [.text q.group, .text q.model, .int q.retry, .array (q.excluded.mergeSort.map .int)]

namespace Dispatch

/-- The group that stands for those tried one after the other. -/
def autoGroup : String := "auto"

/-- How often a satisfier is asked for one group. -/
def maxAttempts : Nat := 8

variable {κ : Type}

/-- The state that selecting works on. -/
structure State (κ : Type) where
  satisfier : κ
  registry : Registry

/-- What selecting goes by: who answers its questions, and the clock. Until an answer comes, time
passes and others may work on the registry. -/
structure Surroundings (κ : Type) where
  ask : Query → State κ → Proposal × State κ
  clock : State κ → Nat

/-- A satisfier that answers at once, with nobody else at work. -/
def Surroundings.still (ask : Satisfier κ) (now : Nat) : Surroundings κ where
  ask q s := match ask q s.satisfier with
    | (p, k) => (p, { s with satisfier := k })
  clock _ := now

/-- Asks for one group, `attempts` times at most, leaving out what was skipped before. -/
def selectFrom (around : Surroundings κ) (group model : String) (retry : Nat) :
    Nat → List Int → State κ → Except DispatchError (Option Channel) × State κ
  | 0, _, s => (.error (.allDisabled group model), s)
  | attempts + 1, excluded, s =>
    match around.ask ⟨group, model, retry, excluded⟩ s with
    | (.nothing, s) => (.ok none, s)
    | (.allFiltered, s) => (.error (.allDisabled group model), s)
    | (.failed reason, s) => (.error (.satisfier reason), s)
    | (.channel c, s) => match s.registry.info (around.clock s) c.id with
      | (none, registry) => (.ok (some c), { s with registry := registry })
      | (some _, registry) =>
        selectFrom around group model retry attempts (excluded.insert c.id)
          { s with registry := registry }

/-- Selects for one group. -/
def selectIn (around : Surroundings κ) (group model : String) (retry : Nat) (s : State κ) :
    Except DispatchError (Option Channel) × State κ :=
  selectFrom around group model retry maxAttempts [] s

/-- Selects for groups one after the other. `disabled` is what the last group said whose channels
were all disabled. -/
def selectAmong (around : Surroundings κ) (model : String) (retry : Nat) :
    List String → Option DispatchError → State κ → Except DispatchError Selected × State κ
  | [], some e, s => (.error e, s)
  | [], none, s => (.ok ⟨none, autoGroup⟩, s)
  | g :: gs, disabled, s => match selectIn around g model retry s with
    | (.ok (some c), s) => (.ok ⟨some c, g⟩, s)
    | (.ok none, s) => selectAmong around model retry gs disabled s
    | (.error (.allDisabled group model'), s) =>
      selectAmong around model retry gs (some (.allDisabled group model')) s
    | (.error e, s) => (.error e, s)

/-- Selects a channel for a request that is routed through `group` for a user of `userGroup`. -/
def select (config : DispatchConfig) (around : Surroundings κ) (userGroup group model : String)
    (retry : Nat) (s : State κ) : Except DispatchError Selected × State κ :=
  if group = autoGroup then
    if config.autoGroups.isEmpty then (.error .autoGroupsDisabled, s)
    else selectAmong around model retry (config.autoGroupsFor userGroup) none s
  else match selectIn around group model retry s with
    | (.ok c, s) => (.ok ⟨c, group⟩, s)
    | (.error e, s) => (.error e, s)

/-- Proposes from a table the first channel that serves and is not excluded. -/
def fromTable (channels : List Channel) : Satisfier κ := fun q k =>
  match channels.filter (·.serves q.group q.model) with
  | [] => (.nothing, k)
  | candidates => match candidates.find? fun c => !q.excluded.contains c.id with
    | some c => (.channel c, k)
    | none => (.allFiltered, k)

/-- Gives answers from a list, one after the other, and after its end proposes nothing. -/
def fromScript : Satisfier (List Proposal) := fun _ script =>
  match script with
  | [] => (.nothing, [])
  | p :: r => (p, r)

/-- Proposes a new channel every time, numbered on from the last. -/
def endless : Satisfier Int := fun _ n =>
  (.channel ⟨n, "ch-" ++ Decimal.int n, "", [], ""⟩, n + 1)

/-- Keeps the questions that a satisfier is asked, the latest first. -/
def recording (ask : Satisfier κ) : Satisfier (κ × List Query) := fun q (k, asked) =>
  match ask q k with
  | (p, k) => (p, (k, q :: asked))

end Dispatch

end Turnstile
