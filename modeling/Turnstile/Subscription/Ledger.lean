import Turnstile.Store.Basic
import Turnstile.Subscription.Form
import Turnstile.Subscription.Selection

/-!
# The ledger of entitlements

The ledger changes the documents that a store keeps, one row and one step at a time: it reads the
text, works on the document and writes it back when something changed or the text was in the older
form. `reserve` charges the first usable entitlement, `adjust` charges or refunds the one that a
selection names, and `resetAll` prunes the documents of a whole group, where a document that cannot
be read is counted and passed over.
-/

namespace Turnstile.Subscription

/-- What is written to the row of a user, if anything, and the result. -/
abbrev RowChange (α : Type) := Option String × α

/-- Prunes a stored text at `now` and charges the first usable entitlement. -/
def reserveIn (now amount : Int) (raw : String) : Except LedgerError (RowChange Selection) :=
  match Document.read raw with
  | .error e => .error (.decode e)
  | .ok (d, older) =>
    match (d.pruned now).charge? now amount with
    | none => .error .exhausted
    | some (d', selection) =>
      let changed := older || d.needsPruning now || 0 < amount
      .ok (if changed then some d'.write else none, selection)

/-- Charges or refunds in a stored text the entitlement that a selection names. -/
def adjustIn (selection : Selection) (delta : Int) (raw : String) :
    Except LedgerError (RowChange Unit) :=
  match Document.read raw with
  | .error e => .error (.decode e)
  | .ok (d, _) => match d.locate? selection with
    | none => .error .itemNotFound
    | some i => match d.items[i]? with
      | none => .error .itemNotFound
      | some e => match e.adjust delta with
        | .error .exhausted => .error .exhausted
        | .ok e' => .ok (some (d.put i e').write, ())

/-- Prunes a stored text. The result tells whether it is written anew. -/
def resetIn (now : Int) (raw : String) : Except LedgerError (RowChange Bool) :=
  match Document.read raw with
  | .error e => .error (.decode e)
  | .ok (d, older) =>
    if older || d.needsPruning now then .ok (some (d.pruned now).write, true)
    else .ok (none, false)

variable {σ : Type} [UserStore σ]

/-- Charges a user's first usable entitlement. -/
def reserve (user now amount : Int) (s : σ) : Except LedgerError Selection × σ :=
  if user ≤ 0 then (.error (.invalidArgument ("invalid user id: " ++ Decimal.int user)), s)
  else if amount < 0 then
    (.error (.invalidArgument ("invalid amount: " ++ Decimal.int amount)), s)
  else UserStore.update user (reserveIn now amount) s

/-- Charges or refunds the entitlement that a selection names. -/
def adjust (user : Int) (selection : Selection) (delta : Int) (s : σ) :
    Except LedgerError Unit × σ :=
  if user ≤ 0 then (.error (.invalidArgument ("invalid user id: " ++ Decimal.int user)), s)
  else if !selection.wellFormed then (.error (.invalidToken selection.text), s)
  else if delta = 0 then (.ok (), s)
  else UserStore.update user (adjustIn selection delta) s

/-- Prunes a user's document. The result tells whether it was written anew. -/
def resetUser (user now : Int) (s : σ) : Except LedgerError Bool × σ :=
  UserStore.update user (resetIn now) s

/-- What a pass over a group did. -/
structure ResetSummary where
  visited : Nat
  updated : Nat
  failed : Nat
  deriving DecidableEq, Repr

/-- The counts as JSON. -/
def ResetSummary.toJson (sum : ResetSummary) : Json :=
  .object [("failed", .int sum.failed), ("updated", .int sum.updated),
    ("visited", .int sum.visited)]

/-- Prunes the documents of users one by one and counts. -/
def resetEach (now : Int) : List Int → ResetSummary → σ → ResetSummary × σ
  | [], sum, s => (sum, s)
  | user :: r, sum, s =>
    let sum := { sum with visited := sum.visited + 1 }
    match resetUser user now s with
    | (.ok true, s) => resetEach now r { sum with updated := sum.updated + 1 } s
    | (.ok false, s) => resetEach now r sum s
    | (.error _, s) => resetEach now r { sum with failed := sum.failed + 1 } s

/-- Prunes the documents of a group. -/
def resetAll (group : String) (now : Int) (s : σ) : Except StoreError ResetSummary × σ :=
  match UserStore.members group s with
  | (.error e, s) => (.error e, s)
  | (.ok users, s) => match resetEach now users ⟨0, 0, 0⟩ s with
    | (sum, s) => (.ok sum, s)

end Turnstile.Subscription
