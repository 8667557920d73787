import Turnstile.Json.Decode

/-!
# Channels

A channel leads to a model provider. It serves the models it lists, to the groups it lists,
separated by commas, and holds one credential or several, one a line.
-/

namespace Turnstile

/-- A channel. -/
structure Channel where
  id : Int
  name : String
  group : String
  models : List String
  key : String
  deriving DecidableEq, Repr

namespace Channel

open Json (Decoder)

/-- The first credential that is not blank. -/
def firstKey? (c : Channel) : Option String :=
  ((Text.split '\n' c.key).map Text.trim).find? fun k => k ≠ ""

/-- The channel serves a model to a group. -/
def serves (c : Channel) (group model : String) : Bool :=
  ((Text.split ',' c.group).map Text.trim).contains group && c.models.contains model

/-- The members of a channel read so far. -/
structure Draft where
  id : Option Int := none
  name : Option String := none
  group : Option String := none
  models : Option (List String) := none
  key : Option String := none

/-- Takes in a member of a channel. -/
def Draft.take : Decoder.Taking Draft := fun budget key t d =>
  if key = "id" then match Decoder.once d.id (Decoder.signed budget t) with
    | .error e => .error e
    | .ok n => .ok { d with id := n }
  else if key = "name" then match Decoder.once d.name (Decoder.text budget t) with
    | .error e => .error e
    | .ok s => .ok { d with name := s }
  else if key = "group" then match Decoder.once d.group (Decoder.text budget t) with
    | .error e => .error e
    | .ok s => .ok { d with group := s }
  else if key = "models" then
    match Decoder.once d.models (Decoder.list Decoder.text budget t) with
    | .error e => .error e
    | .ok ms => .ok { d with models := ms }
  else if key = "key" then match Decoder.once d.key (Decoder.text budget t) with
    | .error e => .error e
    | .ok s => .ok { d with key := s }
  else Decoder.pass t d

/-- A channel; it needs a number. -/
def decode : Decoder Channel := fun budget t =>
  match Decoder.foldRecord ["id", "name", "group", "models", "key"] Draft.take {} budget t with
  | .error e => .error e
  | .ok d => match d.id with
    | none => .error .malformed
    | some id => .ok ⟨id, d.name.getD "", d.group.getD "", d.models.getD [], d.key.getD ""⟩

/-- A channel as JSON. The credentials are not shown. -/
def toJson (c : Channel) : Json :=
  .object [("group", .text c.group), ("id", .int c.id), ("models", Json.texts c.models),
    ("name", .text c.name)]

end Channel

end Turnstile
