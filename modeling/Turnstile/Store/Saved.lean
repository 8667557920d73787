import Turnstile.Json.Decode
import Turnstile.Store.Table

/-!
# Tables kept in a file

The text in which the tables stay between two runs of a command: one object with the rows of the
users and those of the tokens. A blank text is a store without rows.
-/

namespace Turnstile

open Json (Decoder)

namespace UserRow

/-- The row of a user as JSON. -/
def toJson (id : Int) (row : UserRow) : Json :=
  .record [("id", .int id), ("group", .text row.group), ("quota", .int row.balance),
    ("data", .ofText? row.document)]

/-- A row of a user and its number, as read so far. -/
structure Draft where
  id : Option Int := none
  group : Option String := none
  balance : Option Int := none
  document : Option (Option String) := none

/-- Takes in a member of a row. -/
def Draft.take : Decoder.Taking Draft := fun budget key t d =>
  if key = "id" then match Decoder.once d.id (Decoder.signed budget t) with
    | .error e => .error e
    | .ok n => .ok { d with id := n }
  else if key = "group" then match Decoder.once d.group (Decoder.text budget t) with
    | .error e => .error e
    | .ok s => .ok { d with group := s }
  else if key = "quota" then match Decoder.once d.balance (Decoder.signed budget t) with
    | .error e => .error e
    | .ok n => .ok { d with balance := n }
  else if key = "data" then
    match Decoder.once d.document (Decoder.optional Decoder.text budget t) with
    | .error e => .error e
    | .ok s => .ok { d with document := s }
  else Decoder.pass t d

/-- A row of a user and its number. -/
def decode : Decoder (Int × UserRow) := fun budget t =>
  match Decoder.foldObject Draft.take {} budget t with
  | .error e => .error e
  | .ok d => match d.id with
    | none => .error .malformed
    | some id => .ok (id, ⟨d.group.getD "", d.balance.getD 0, d.document.getD none⟩)

end UserRow

namespace TokenRow

/-- The row of a token as JSON. -/
def toJson (id : Int) (row : TokenRow) : Json :=
  .record [("id", .int id), ("user", .int row.user), ("remain", .int row.remain),
    ("unlimited", .bool row.unlimited)]

/-- A row of a token and its number, as read so far. -/
structure Draft where
  id : Option Int := none
  user : Option Int := none
  remain : Option Int := none
  unlimited : Option Bool := none

/-- Takes in a member of a row. -/
def Draft.take : Decoder.Taking Draft := fun budget key t d =>
  if key = "id" then match Decoder.once d.id (Decoder.signed budget t) with
    | .error e => .error e
    | .ok n => .ok { d with id := n }
  else if key = "user" then match Decoder.once d.user (Decoder.signed budget t) with
    | .error e => .error e
    | .ok n => .ok { d with user := n }
  else if key = "remain" then match Decoder.once d.remain (Decoder.signed budget t) with
    | .error e => .error e
    | .ok n => .ok { d with remain := n }
  else if key = "unlimited" then match Decoder.once d.unlimited (Decoder.bool budget t) with
    | .error e => .error e
    | .ok b => .ok { d with unlimited := b }
  else Decoder.pass t d

/-- A row of a token and its number. -/
def decode : Decoder (Int × TokenRow) := fun budget t =>
  match Decoder.foldObject Draft.take {} budget t with
  | .error e => .error e
  | .ok d => match d.id with
    | none => .error .malformed
    | some id => .ok (id, ⟨d.user.getD 0, d.remain.getD 0, d.unlimited.getD false⟩)

end TokenRow

namespace TableStore

/-- The tables as JSON. -/
def toJson (s : TableStore) : Json :=
  .record [("users", .array (s.users.map fun r => r.2.toJson r.1)),
    ("tokens", .array (s.tokens.map fun r => r.2.toJson r.1))]

/-- The text in which the tables are kept. -/
def save (s : TableStore) : String := s.toJson.render ++ "\n"

/-- Takes in one of the tables. -/
def take : Decoder.Taking TableStore := fun budget key t s =>
  if key = "users" then match Decoder.list UserRow.decode budget t with
    | .error e => .error e
    | .ok rows => .ok (rows.foldl (fun s r => s.insertUser r.1 r.2) s)
  else if key = "tokens" then match Decoder.list TokenRow.decode budget t with
    | .error e => .error e
    | .ok rows => .ok (rows.foldl (fun s r => s.insertToken r.1 r.2) s)
  else Decoder.pass t s

/-- The tables kept in a text, unless it is none that keeps tables. -/
def ofSaved? (text : String) : Option TableStore :=
  if Text.blank text then some {}
  else match Decoder.run (Decoder.foldObject take {}) text with
    | .error _ => none
    | .ok s => some s

end TableStore

end Turnstile
