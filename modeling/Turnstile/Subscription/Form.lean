import Turnstile.Json.Decode
import Turnstile.Subscription.Document

/-!
# The stored form of documents

A document is stored as an object with the members `items` and `last_reset_at`; an older form is
the bare array of the items. A blank text and `null` stand for a document without entitlements.
Reading takes integers in any of the forms of `Decoder.flexible`, absent members and `null` for
the empty value; writing has one form.
-/

namespace Turnstile.Subscription

open Json (Decoder DecodeError Tree)

/-! ## Windows -/

/-- The members of a window read so far. -/
structure WindowDraft where
  total : Option Int := none
  available : Option Int := none
  resetAt : Option Int := none

/-- Takes in a member of a window. -/
def WindowDraft.take : Decoder.Taking WindowDraft := fun budget key t d =>
  if key = "total" then match Decoder.once d.total (Decoder.flexible budget t) with
    | .error e => .error e
    | .ok n => .ok { d with total := n }
  else if key = "available" then match Decoder.once d.available (Decoder.flexible budget t) with
    | .error e => .error e
    | .ok n => .ok { d with available := n }
  else if key = "reset_at" then match Decoder.once d.resetAt (Decoder.flexible budget t) with
    | .error e => .error e
    | .ok n => .ok { d with resetAt := n }
  else Decoder.pass t d

/-- The window of the members read. -/
def WindowDraft.finish (d : WindowDraft) : Window :=
  ⟨d.total.getD 0, d.available.getD 0, d.resetAt.getD 0⟩

/-- A window. -/
def Window.decode : Decoder Window := fun budget t =>
  match Decoder.foldRecord ["total", "available", "reset_at"] WindowDraft.take {} budget t with
  | .error e => .error e
  | .ok d => .ok d.finish

/-- The stored form of a window. -/
def Window.toJson (w : Window) : Json :=
  .object [("total", .int w.total), ("available", .int w.available), ("reset_at", .int w.resetAt)]

/-! ## Terms -/

/-- The members of a term read so far. -/
structure TermDraft where
  startAt : Option Int := none
  endAt : Option Int := none
  autoRenew : Option Bool := none

/-- Takes in a member of a term. -/
def TermDraft.take : Decoder.Taking TermDraft := fun budget key t d =>
  if key = "start_at" then match Decoder.once d.startAt (Decoder.flexible budget t) with
    | .error e => .error e
    | .ok n => .ok { d with startAt := n }
  else if key = "end_at" then match Decoder.once d.endAt (Decoder.flexible budget t) with
    | .error e => .error e
    | .ok n => .ok { d with endAt := n }
  else if key = "auto_renew_enabled" then
    match Decoder.once d.autoRenew (Decoder.nullAs false Decoder.bool budget t) with
    | .error e => .error e
    | .ok b => .ok { d with autoRenew := b }
  else Decoder.pass t d

/-- The term of the members read. -/
def TermDraft.finish (d : TermDraft) : Term :=
  ⟨d.startAt.getD 0, d.endAt.getD 0, d.autoRenew.getD false⟩

/-- A term. -/
def Term.decode : Decoder Term := fun budget t =>
  match Decoder.foldRecord ["start_at", "end_at", "auto_renew_enabled"] TermDraft.take {}
    budget t with
  | .error e => .error e
  | .ok d => .ok d.finish

/-- The stored form of a term. -/
def Term.toJson (t : Term) : Json :=
  .object [("start_at", .int t.startAt), ("end_at", .int t.endAt),
    ("auto_renew_enabled", .bool t.autoRenew)]

/-! ## Entitlements -/

/-- The members of an entitlement read so far. -/
structure EntitlementDraft where
  planName : Option String := none
  planId : Option String := none
  subscriptionId : Option String := none
  short : Option Window := none
  long : Option Window := none
  term : Option Term := none
  owner : Option Int := none
  status : Option String := none
  extra : Json.Members := []

/-- Takes in a member of an entitlement. One without a meaning is kept. -/
def EntitlementDraft.take : Decoder.Taking EntitlementDraft := fun budget key t d =>
  if key = "plan_name" then
    match Decoder.once d.planName (Decoder.nullAs "" Decoder.text budget t) with
    | .error e => .error e
    | .ok s => .ok { d with planName := s }
  else if key = "plan_id" then
    match Decoder.once d.planId (Decoder.nullAs "" Decoder.text budget t) with
    | .error e => .error e
    | .ok s => .ok { d with planId := s }
  else if key = "subscription_id" then
    match Decoder.once d.subscriptionId (Decoder.nullAs "" Decoder.text budget t) with
    | .error e => .error e
    | .ok s => .ok { d with subscriptionId := s }
  else if key = "5h_limit" then
    match Decoder.once d.short (Decoder.nullAs Window.empty Window.decode budget t) with
    | .error e => .error e
    | .ok w => .ok { d with short := w }
  else if key = "7d_limit" then
    match Decoder.once d.long (Decoder.nullAs Window.empty Window.decode budget t) with
    | .error e => .error e
    | .ok w => .ok { d with long := w }
  else if key = "duration" then
    match Decoder.once d.term (Decoder.nullAs Term.empty Term.decode budget t) with
    | .error e => .error e
    | .ok x => .ok { d with term := x }
  else if key = "owner" then
    match Decoder.once d.owner (Decoder.flexible budget t) with
    | .error e => .error e
    | .ok n => .ok { d with owner := n }
  else if key = "status" then
    match Decoder.once d.status (Decoder.nullAs "" Decoder.text budget t) with
    | .error e => .error e
    | .ok s => .ok { d with status := s }
  else match Decoder.value budget t with
    | .error e => .error e
    | .ok v => .ok { d with extra := Json.insert key v d.extra }

/-- The entitlement of the members read. -/
def EntitlementDraft.finish (d : EntitlementDraft) : Entitlement :=
  { planName := d.planName.getD ""
    planId := d.planId.getD ""
    subscriptionId := d.subscriptionId.getD ""
    short := d.short.getD Window.empty
    long := d.long.getD Window.empty
    term := d.term.getD Term.empty
    owner := d.owner.getD 0
    status := d.status.getD ""
    extra := d.extra }

/-- An entitlement. -/
def Entitlement.decode : Decoder Entitlement := fun budget t =>
  match Decoder.foldObject EntitlementDraft.take {} budget t with
  | .error e => .error e
  | .ok d => .ok d.finish

/-- The stored form of an entitlement: the members with a meaning, then the others. -/
def Entitlement.toJson (e : Entitlement) : Json :=
  .object ([("plan_name", .text e.planName), ("plan_id", .text e.planId),
    ("subscription_id", .text e.subscriptionId), ("5h_limit", e.short.toJson),
    ("7d_limit", e.long.toJson), ("duration", e.term.toJson), ("owner", .int e.owner),
    ("status", .text e.status)] ++ e.extra)

/-! ## Documents -/

/-- The members of a document read so far. -/
structure DocumentDraft where
  items : Option (List Entitlement) := none
  lastResetAt : Option Int := none

/-- Takes in a member of a document. -/
def DocumentDraft.take : Decoder.Taking DocumentDraft := fun budget key t d =>
  if key = "items" then
    match Decoder.once d.items
      (Decoder.nullAs [] (Decoder.list Entitlement.decode) budget t) with
    | .error e => .error e
    | .ok es => .ok { d with items := es }
  else if key = "last_reset_at" then
    match Decoder.once d.lastResetAt (Decoder.flexible budget t) with
    | .error e => .error e
    | .ok n => .ok { d with lastResetAt := n }
  else Decoder.pass t d

/-- The document of the members read. -/
def DocumentDraft.finish (d : DocumentDraft) : Document :=
  ⟨d.items.getD [], d.lastResetAt.getD 0⟩

/-- A document in its present form. -/
def Document.decode : Decoder Document := fun budget t =>
  match Decoder.foldRecord ["items", "last_reset_at"] DocumentDraft.take {} budget t with
  | .error e => .error e
  | .ok d => .ok d.finish

/-- A document in its older form, the bare items. -/
def Document.decodeOlder : Decoder Document := fun budget t =>
  match Decoder.nullAs [] (Decoder.list Entitlement.decode) budget t with
  | .error e => .error e
  | .ok es => .ok ⟨es, 0⟩

/-- Reads a stored text. The flag tells the older form. -/
def Document.read (raw : String) : Except DecodeError (Document × Bool) :=
  let s := Text.trim raw
  if s = "" || s = "null" then .ok (.empty, false)
  else if s.toList.head? = some '[' then match Document.decodeOlder.run s with
    | .error e => .error e
    | .ok d => .ok (d, true)
  else match Document.decode.run s with
    | .error e => .error e
    | .ok d => .ok (d, false)

/-- The stored form of a document. -/
def Document.toJson (d : Document) : Json :=
  .object [("items", .array (d.items.map Entitlement.toJson)),
    ("last_reset_at", .int d.lastResetAt)]

/-- The text that is stored for a document. -/
def Document.write (d : Document) : String := d.toJson.render

end Turnstile.Subscription
