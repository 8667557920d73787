import Turnstile.Text.Hex
import Turnstile.Digest.Sha256
import Turnstile.Decimal.Integer
import Turnstile.Json.Basic
import Turnstile.Subscription.Window

/-!
# Entitlement documents

A user's document lists the entitlements that were bought, in an order that is kept. A charge goes
to the first entitlement that is usable and lowers both of its windows; pruning drops what is no
longer deployed and rolls over every stale window.

The fingerprint of an entitlement is the digest of what never changes about it, so it names the
entitlement wherever it stands and whatever has been charged to it.
-/

namespace Turnstile.Subscription

/-- A charge that no entitlement, or not this one, can bear. -/
inductive ChargeError where
  | exhausted
  deriving DecidableEq, Repr

/-- What a user has bought. `extra` holds the members of its stored form that have no meaning
here; they are kept as they are. -/
structure Entitlement where
  planName : String
  planId : String
  subscriptionId : String
  short : Window
  long : Window
  term : Term
  owner : Int
  status : String
  extra : Json.Members

namespace Entitlement

/-- The status of an entitlement in force. -/
def deployedStatus : String := "deployed"

/-- The entitlement is in force. -/
def deployed (e : Entitlement) : Bool := e.status == deployedStatus

/-- A charge of `amount` at `now` may go to this entitlement: it is deployed, something is left in
both windows, a positive amount fits both, and its term contains `now`. -/
def usable (e : Entitlement) (now amount : Int) : Bool :=
  e.deployed && 0 < e.short.available && 0 < e.long.available &&
    (amount ≤ 0 || (amount ≤ e.short.available && amount ≤ e.long.available)) &&
    e.term.contains now

/-- What never changes about an entitlement, in one text. -/
def identity (e : Entitlement) : String :=
  "plan_name=" ++ e.planName ++ "|plan_id=" ++ e.planId ++
    "|subscription_id=" ++ e.subscriptionId ++ "|owner=" ++ Decimal.int e.owner ++
    "|start=" ++ Decimal.int e.term.startAt ++ "|end=" ++ Decimal.int e.term.endAt

/-- The digest of the identity, in hexadecimal digits. -/
def fingerprint (e : Entitlement) : String :=
  String.ofList (Text.hex (Digest.sha256 e.identity.toUTF8.toList))

/-- Some window of the entitlement is stale. -/
def stale (e : Entitlement) (now : Int) : Bool := e.short.stale now || e.long.stale now

/-- The stale windows of the entitlement rolled over. -/
def rollOver (e : Entitlement) (now : Int) : Entitlement :=
  { e with short := e.short.rollOver now fiveHours, long := e.long.rollOver now sevenDays }

/-- `amount` less in both windows. -/
def debit (e : Entitlement) (amount : Int) : Entitlement :=
  { e with
    short := { e.short with available := e.short.available - amount }
    long := { e.long with available := e.long.available - amount } }

/-- A later charge, or with a negative `delta` a refund. A charge may bring neither window below
zero; a refund fills neither beyond its total. -/
def adjust (e : Entitlement) (delta : Int) : Except ChargeError Entitlement :=
  let short := Word.sub e.short.available delta
  let long := Word.sub e.long.available delta
  if 0 < delta && (short < 0 || long < 0) then .error .exhausted
  else
    let short := if delta < 0 then min short e.short.total else short
    let long := if delta < 0 then min long e.long.total else long
    .ok { e with
      short := { e.short with available := short }
      long := { e.long with available := long } }

end Entitlement

/-- A user's entitlements, and when a window of them was last filled. -/
structure Document where
  items : List Entitlement
  lastResetAt : Int

namespace Document

/-- A document without entitlements. -/
def empty : Document := ⟨[], 0⟩

/-- Drops what is not deployed and rolls over what is stale. -/
def pruned (d : Document) (now : Int) : Document :=
  let kept := d.items.filter Entitlement.deployed
  { items := kept.map (·.rollOver now)
    lastResetAt := if kept.any (·.stale now) then now else d.lastResetAt }

/-- Pruning at `now` changes something: an entitlement is not deployed, or one that is has a stale
window. -/
def needsPruning (d : Document) (now : Int) : Bool :=
  d.items.any fun e => !e.deployed || e.stale now

/-- The place of the first entitlement to which a charge may go. -/
def firstUsable? (d : Document) (now amount : Int) : Option Nat :=
  d.items.findIdx? (·.usable now amount)

/-- The document with the entitlement at one place replaced. -/
def put (d : Document) (i : Nat) (e : Entitlement) : Document :=
  { d with items := d.items.set i e }

/-- The place of the first entitlement with a fingerprint. -/
def findFingerprint? (d : Document) (fingerprint : String) : Option Nat :=
  d.items.findIdx? (·.fingerprint == fingerprint)

end Document

end Turnstile.Subscription
