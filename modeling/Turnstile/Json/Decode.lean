import Turnstile.Text.Blank
import Turnstile.Text.Quoted
import Turnstile.Decimal.Literal
import Turnstile.Json.Tree
import Turnstile.Json.Printer

/-!
# Typed values from JSON text

A `Decoder` takes a tree and the number of levels it may still nest. A structure with known
members is read member by member in the order of the text (`foldRecord`), so that of two faults
the one that stands first is reported. Such a structure may also stand there as an array of its
members in their order, with members missing at the end.

`flexible` reads an integer in any of the forms in which billing documents write one: a number,
a text with a number in it, a blank text or `null` for zero.
-/

namespace Turnstile.Json

/-- Why a text was not decoded. -/
inductive DecodeError where
  /-- No JSON, or not of the shape asked for. -/
  | malformed
  /-- A text that should hold an integer and does not; without the blanks around it. -/
  | integerText (s : String)
  /-- A value that can hold no integer. -/
  | integerValue (v : Json)

/-- What is said of a text that was not decoded. -/
def DecodeError.message : DecodeError → String
  | .malformed => "not of the form asked for"
  | .integerText s => "invalid int64 string " ++ Text.quote s
  | .integerValue v => "invalid int64 json value: " ++ v.render

/-- A reader of trees of one shape. -/
abbrev Decoder (α : Type) := Nat → Tree → Except DecodeError α

namespace Decoder

/-- Any value. -/
def value : Decoder Json := fun budget t => match t.toJson? budget with
  | some v => .ok v
  | none => .error .malformed

/-- A text. -/
def text : Decoder String
  | _, .text s => .ok s
  | _, _ => .error .malformed

/-- A truth value. -/
def bool : Decoder Bool
  | _, .bool b => .ok b
  | _, _ => .error .malformed

/-- A signed 64-bit integer. -/
def signed : Decoder Int
  | _, .int n => if Word.InRange n then .ok n else .error .malformed
  | _, _ => .error .malformed

/-- An unsigned 64-bit integer. -/
def unsigned : Decoder Nat
  | _, .int n => if 0 ≤ n then .ok n.toNat else .error .malformed
  | _, _ => .error .malformed

/-- A double; an integer stands for the nearest one. -/
def float : Decoder Float
  | _, .float x => .ok x
  | _, .int n => .ok (
    let x := (UInt64.ofNat n.natAbs).toFloat
    if n < 0 then -x else x)
  | _, _ => .error .malformed

/-- `null` for nothing, else what `d` reads. -/
def optional {α : Type} (d : Decoder α) : Decoder (Option α)
  | _, .null => .ok none
  | budget, t => match d budget t with
    | .ok a => .ok (some a)
    | .error e => .error e

/-- `null` for a value of its own, else what `d` reads. -/
def nullAs {α : Type} (a : α) (d : Decoder α) : Decoder α
  | _, .null => .ok a
  | budget, t => d budget t

/-- What `d` reads of each item. -/
def items {α : Type} (d : Decoder α) (budget : Nat) : List Tree → Except DecodeError (List α)
  | [] => .ok []
  | t :: r => match d budget t with
    | .error e => .error e
    | .ok a => match items d budget r with
      | .error e => .error e
      | .ok as => .ok (a :: as)

/-- An array of what `d` reads. -/
def list {α : Type} (d : Decoder α) : Decoder (List α)
  | budget, .list ts => if budget = 0 then .error .malformed else items d (budget - 1) ts
  | _, _ => .error .malformed

/-! ## Structures -/

/-- How a structure takes in one member: its key, its tree and what has been read so far. -/
abbrev Taking (σ : Type) := Nat → String → Tree → σ → Except DecodeError σ

/-- Takes in the members in the order of the text. -/
def foldMembers {σ : Type} (take : Taking σ) (budget : Nat) :
    List (Option String × Tree) → σ → Except DecodeError σ
  | [], s => .ok s
  | (none, _) :: _, _ => .error .malformed
  | (some k, t) :: r, s => match take budget k t s with
    | .error e => .error e
    | .ok s => foldMembers take budget r s

/-- Takes in the members of an object. -/
def foldObject {σ : Type} (take : Taking σ) (start : σ) : Decoder σ
  | budget, .record ms =>
    if budget = 0 then .error .malformed else foldMembers take (budget - 1) ms start
  | _, _ => .error .malformed

/-- Takes in the members of an object, or the items of an array as the members `names`. -/
def foldRecord {σ : Type} (names : List String) (take : Taking σ) (start : σ) : Decoder σ
  | budget, .list ts =>
    if budget = 0 then .error .malformed
    else match foldMembers take (budget - 1) ((names.map some).zip ts) start with
      | .error e => .error e
      | .ok s => if ts.length ≤ names.length then .ok s else .error .malformed
  | budget, t => foldObject take start budget t

/-- Fills a slot of a structure. A member that stands twice is refused. -/
def once {α : Type} (slot : Option α) (read : Except DecodeError α) :
    Except DecodeError (Option α) :=
  match slot with
  | some _ => .error .malformed
  | none => match read with
    | .ok a => .ok (some a)
    | .error e => .error e

/-- Passes over a member that the structure does not know. -/
def pass {σ : Type} (t : Tree) (s : σ) : Except DecodeError σ :=
  if t.intact then .ok s else .error .malformed

/-- An object whose members all have one type; of two with one key the later stays. -/
def dictionary {α : Type} (d : Decoder α) : Decoder (List (String × α)) :=
  foldObject
    (fun budget key t (acc : List (String × α)) => match d budget t with
      | .error e => .error e
      | .ok a => .ok (place key a acc)) []
where
  /-- Puts an entry in the order of the keys. -/
  place (key : String) (a : α) : List (String × α) → List (String × α)
    | [] => [(key, a)]
    | (k, b) :: r =>
      if key = k then (key, a) :: r
      else if key < k then (key, a) :: (k, b) :: r
      else (k, b) :: place key a r

/-! ## Integers of billing documents -/

/-- The integer in a text: written as an integer, or as a finite decimal number, which is cut at
its point; a blank text is zero. -/
def integerIn (s : String) : Except DecodeError Int :=
  let cs := Text.strip s.toList
  if cs.isEmpty then .ok 0
  else match Decimal.readSigned? cs with
    | some n => .ok n
    | none => match Decimal.Literal.read? cs with
      | some x =>
        if Decimal.Binary64.isFinite x then .ok (Decimal.Literal.toSigned x)
        else .error (.integerText (String.ofList cs))
      | none => .error (.integerText (String.ofList cs))

/-- An integer in any of the forms of a billing document. -/
def flexible : Decoder Int := fun budget t => match t.toJson? budget with
  | none => .error .malformed
  | some .null => .ok 0
  | some (.int n) => .ok (Word.saturate n)
  | some (.float x) => .ok (Decimal.Literal.toSigned x)
  | some (.text s) => integerIn s
  | some v => .error (.integerValue v)

/-- What `d` reads of a whole text. -/
def run {α : Type} (d : Decoder α) (s : String) : Except DecodeError α :=
  match Tree.read s.toList with
  | (t, complete) => match d maxDepth t with
    | .error e => .error e
    | .ok a => if complete then .ok a else .error .malformed

end Decoder

end Turnstile.Json
