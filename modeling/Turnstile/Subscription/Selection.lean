import Turnstile.Text.Blank
import Turnstile.Subscription.Document

/-!
# Selections

A selection is the handle of the entitlement to which a charge went: its fingerprint and, as a
hint, the place where it stood, written `fp:` fingerprint `|i:` place. It is resolved at the
hinted place if the fingerprint there is the same, else at the first place with that fingerprint;
so it still finds the entitlement after others have been moved, added or removed.

A text of any other form is taken as well: it is a selection that resolves to nothing, or, where
parts follow the fingerprint, the first of them that is a place is the hint.
-/

namespace Turnstile.Subscription

/-- The handle of an entitlement, as text. -/
structure Selection where
  text : String
  deriving DecidableEq, Repr

/-- What a selection says: a fingerprint, and perhaps a place. -/
structure Address where
  fingerprint : String
  hint : Option Nat

namespace Selection

/-- What stands before the fingerprint. -/
def mark : List Char := ['f', 'p', ':']

/-- What stands before the place. -/
def placeMark : List Char := ['i', ':']

/-- The text behind a mark, if it starts with it. -/
def behind? (mark cs : List Char) : Option (List Char) :=
  if mark.isPrefixOf cs then some (cs.drop mark.length) else none

/-- The place that a part states. -/
def place? (part : List Char) : Option Nat :=
  match behind? placeMark part with
  | some r => Decimal.readUnsigned? r
  | none => none

/-- The selection of an entitlement at a place. -/
def of (e : Entitlement) (i : Nat) : Selection :=
  ⟨"fp:" ++ e.fingerprint ++ "|i:" ++ Decimal.nat i⟩

/-- What a selection says; `none` when it is not of the form. -/
def address? (s : Selection) : Option Address :=
  match behind? mark s.text.toList with
  | none => none
  | some payload => match Text.pieces '|' payload with
    | [] => none
    | [] :: _ => none
    | fingerprint :: parts =>
      some ⟨String.ofList fingerprint, parts.findSome? place?⟩

/-- The selection has the form of one. -/
def wellFormed (s : Selection) : Bool := s.address?.isSome

end Selection

namespace Document

/-- The place of the entitlement that a selection names. -/
def locate? (d : Document) (s : Selection) : Option Nat :=
  match s.address? with
  | none => none
  | some a =>
    let hinted := match a.hint with
      | none => none
      | some i => match d.items[i]? with
        | some e => if e.fingerprint == a.fingerprint then some i else none
        | none => none
    match hinted with
    | some i => some i
    | none => d.findFingerprint? a.fingerprint

/-- Charges the first usable entitlement, which becomes the selection. -/
def charge? (d : Document) (now amount : Int) : Option (Document × Selection) :=
  if amount < 0 then none
  else match d.firstUsable? now amount with
    | none => none
    | some i => match d.items[i]? with
      | none => none
      | some e => some (d.put i (e.debit amount), .of e i)

end Document

end Turnstile.Subscription
