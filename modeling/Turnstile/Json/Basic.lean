/-!
# JSON values

The members of an object stand in the order of their keys and no key stands twice; `insert`
keeps that. Integers and doubles are told apart: a number written without point and exponent is
an integer where it fits a signed or an unsigned 64-bit word.
-/

namespace Turnstile

/-- A JSON value. -/
inductive Json where
  | null
  | bool (b : Bool)
  | int (n : Int)
  | float (x : Float)
  | text (s : String)
  | array (items : List Json)
  | object (members : List (String × Json))
  deriving Inhabited

namespace Json

/-- The members of an object. -/
abbrev Members := List (String × Json)

/-- Puts a member in its place by key; a member of the same key is replaced. -/
def insert (key : String) (value : Json) : Members → Members
  | [] => [(key, value)]
  | (k, v) :: r =>
    if key = k then (key, value) :: r
    else if key < k then (key, value) :: (k, v) :: r
    else (k, v) :: insert key value r

/-- The value under a key. -/
def find? (key : String) : Members → Option Json
  | [] => none
  | (k, v) :: r => if key = k then some v else find? key r

/-- Members in any order put in order; of two with one key the later stays. -/
def ofList (ms : List (String × Json)) : Members :=
  ms.foldl (fun acc m => insert m.1 m.2 acc) []

/-- An object from members in any order. -/
def record (ms : List (String × Json)) : Json := .object (ofList ms)

/-- The member of an object, `none` also for what is no object. -/
def get? (key : String) : Json → Option Json
  | .object ms => find? key ms
  | _ => none

/-- The value under a key, `null` where there is none. -/
def get (key : String) (v : Json) : Json := (v.get? key).getD .null

/-- The text of a string value. -/
def text? : Json → Option String
  | .text s => some s
  | _ => none

/-- The items of an array. -/
def items? : Json → Option (List Json)
  | .array xs => some xs
  | _ => none

/-- The integer of an integer value. -/
def int? : Json → Option Int
  | .int n => some n
  | _ => none

/-- The truth value of a boolean. -/
def bool? : Json → Option Bool
  | .bool b => some b
  | _ => none

/-- A text, or `null`. -/
def ofText? : Option String → Json
  | some s => .text s
  | none => .null

/-- An array of texts. -/
def texts (ss : List String) : Json := .array (ss.map .text)

end Json

end Turnstile
