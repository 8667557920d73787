import Turnstile.Text.Hex
import Turnstile.Json.Numeral

/-!
# JSON text as it was written

`Tree` is the shape of a JSON text before anybody has said what it should hold: members stand in
the order of the text, a key may stand twice, and nesting has no limit. A text that goes wrong
gives the tree up to that place, whose last leaf is `broken`; so a reader of the tree meets the
faults of a text in the order in which they stand there. A token of the right shape without a
value, a number too large or half of a surrogate pair, is `unreadable`.

`toJson?` makes a value of a tree: it refuses broken and unreadable leaves and nesting deeper
than its budget, and of two members with one key it keeps the later.
-/

namespace Turnstile.Json

/-- The shape of a JSON text. A key that could not be read is `none`. -/
inductive Tree where
  | null
  | bool (b : Bool)
  | int (n : Int)
  | float (x : Float)
  | text (s : String)
  | list (items : List Tree)
  | record (members : List (Option String × Tree))
  | unreadable
  | broken
  deriving Inhabited

/-! ## Strings -/

/-- A piece of a string as written: a character, or a UTF-16 unit in hexadecimal. -/
inductive Piece where
  | char (c : Char)
  | unit (n : Nat)

/-- The unit that four hexadecimal digits write. -/
def unit? (a b c d : Char) : Option Nat :=
  match Text.hexVal? a, Text.hexVal? b, Text.hexVal? c, Text.hexVal? d with
  | some a, some b, some c, some d => some (((a * 16 + b) * 16 + c) * 16 + d)
  | _, _, _, _ => none

/-- The character behind a backslash of one letter. -/
def escaped? (c : Char) : Option Char :=
  if c = '"' then some '"'
  else if c = '\\' then some '\\'
  else if c = '/' then some '/'
  else if c = 'b' then some '\x08'
  else if c = 'f' then some '\x0c'
  else if c = 'n' then some '\n'
  else if c = 'r' then some '\r'
  else if c = 't' then some '\t'
  else none

/-- The pieces of a string up to its closing quote, and what follows the quote. -/
def scanString? : List Char → Option (List Piece × List Char)
  | [] => none
  | '"' :: r => some ([], r)
  | '\\' :: 'u' :: a :: b :: c :: d :: r =>
    match unit? a b c d with
    | none => none
    | some n => (scanString? r).map fun p => (.unit n :: p.1, p.2)
  | '\\' :: c :: r =>
    match escaped? c with
    | none => none
    | some e => (scanString? r).map fun p => (.char e :: p.1, p.2)
  | c :: r =>
    if c.toNat < 0x20 || c = '\\' then none
    else (scanString? r).map fun p => (.char c :: p.1, p.2)

/-- The text of the pieces; `none` if a surrogate stands there without its other half. -/
def assemble? : List Piece → Option (List Char)
  | [] => some []
  | .char c :: r => (assemble? r).map (c :: ·)
  | .unit n :: r =>
    if 0xDC00 ≤ n && n ≤ 0xDFFF then none
    else if 0xD800 ≤ n && n ≤ 0xDBFF then
      match r with
      | .unit m :: r' =>
        if 0xDC00 ≤ m && m ≤ 0xDFFF then
          (assemble? r').map (Char.ofNat (0x10000 + (n - 0xD800) * 0x400 + (m - 0xDC00)) :: ·)
        else none
      | _ => none
    else (assemble? r).map (Char.ofNat n :: ·)

/-- The text that pieces write, as a string. -/
def assembled? (ps : List Piece) : Option String := (assemble? ps).map String.ofList

/-! ## Reading -/

/-- The four characters that may stand between tokens. -/
def isGap (c : Char) : Bool := c = ' ' || c = '\n' || c = '\t' || c = '\r'

/-- The text after the gap at its front. -/
def skipGap (cs : List Char) : List Char := cs.dropWhile isGap

/-- What is read, and the text behind it; no text behind it when it is broken. -/
abbrev Step (α : Type) := α × Option (List Char)

/-- A leaf that starts with `c`. -/
def readLeaf (cs : List Char) : Step Tree :=
  match cs with
  | 'n' :: 'u' :: 'l' :: 'l' :: r => (.null, some r)
  | 't' :: 'r' :: 'u' :: 'e' :: r => (.bool true, some r)
  | 'f' :: 'a' :: 'l' :: 's' :: 'e' :: r => (.bool false, some r)
  | '"' :: r => match scanString? r with
    | none => (.broken, none)
    | some (ps, r) => match assembled? ps with
      | some s => (.text s, some r)
      | none => (.unreadable, some r)
  | cs => match Numeral.scan? cs with
    | none => (.broken, none)
    | some (n, r) => match n.value? with
      | some (.int i) => (.int i, some r)
      | some (.float x) => (.float x, some r)
      | _ => (.unreadable, some r)

mutual

/-- The value at the front of a text. -/
def readValue : Nat → List Char → Step Tree
  | 0, _ => (.broken, none)
  | fuel + 1, cs => match skipGap cs with
    | '[' :: r => match skipGap r with
      | ']' :: r => (.list [], some r)
      | r => match readItems fuel r with
        | (ts, rest) => (.list ts, rest)
    | '{' :: r => match skipGap r with
      | '}' :: r => (.record [], some r)
      | r => match readMembers fuel r with
        | (ms, rest) => (.record ms, rest)
    | cs => readLeaf cs

/-- The items of an array, of which at least one has to come, up to its closing bracket. -/
def readItems : Nat → List Char → Step (List Tree)
  | 0, _ => ([.broken], none)
  | fuel + 1, cs => match readValue fuel cs with
    | (t, none) => ([t], none)
    | (t, some r) => match skipGap r with
      | ']' :: r => ([t], some r)
      | ',' :: r => match readItems fuel r with
        | (ts, rest) => (t :: ts, rest)
      | _ => ([t, .broken], none)

/-- The members of an object, of which at least one has to come, up to its closing brace. -/
def readMembers : Nat → List Char → Step (List (Option String × Tree))
  | 0, _ => ([(none, .broken)], none)
  | fuel + 1, cs => match skipGap cs with
    | '"' :: r => match scanString? r with
      | none => ([(none, .broken)], none)
      | some (ps, r) => match skipGap r with
        | ':' :: r => match readValue fuel r with
          | (t, none) => ([(assembled? ps, t)], none)
          | (t, some r) => match skipGap r with
            | '}' :: r => ([(assembled? ps, t)], some r)
            | ',' :: r => match readMembers fuel r with
              | (ms, rest) => ((assembled? ps, t) :: ms, rest)
            | _ => ([(assembled? ps, t), (none, .broken)], none)
        | _ => ([(assembled? ps, .broken)], none)
    | _ => ([(none, .broken)], none)

end

/-- The tree of a text, and whether nothing but a gap follows it. -/
def Tree.read (cs : List Char) : Tree × Bool :=
  match readValue (2 * cs.length + 2) cs with
  | (t, none) => (t, true)
  | (t, some r) => (t, (skipGap r).isEmpty)

/-! ## Trees and values -/

mutual

/-- Nothing in the tree is broken. Unreadable tokens and deep nesting are let pass: this is asked
of a part of a text that is not looked at. -/
def Tree.intact : Tree → Bool
  | .broken => false
  | .list ts => intactItems ts
  | .record ms => intactMembers ms
  | _ => true

/-- No item is broken. -/
def intactItems : List Tree → Bool
  | [] => true
  | t :: r => t.intact && intactItems r

/-- No member is broken. -/
def intactMembers : List (Option String × Tree) → Bool
  | [] => true
  | (_, t) :: r => t.intact && intactMembers r

end

mutual

/-- The value of a tree that nests no deeper than `budget` arrays and objects. -/
def Tree.toJson? (budget : Nat) : Tree → Option Json
  | .null => some .null
  | .bool b => some (.bool b)
  | .int n => some (.int n)
  | .float x => some (.float x)
  | .text s => some (.text s)
  | .list ts => if budget = 0 then none else (itemsToJson? (budget - 1) ts).map .array
  | .record ms => if budget = 0 then none else (membersToJson? (budget - 1) [] ms).map .object
  | .unreadable => none
  | .broken => none

/-- The values of the items. -/
def itemsToJson? (budget : Nat) : List Tree → Option (List Json)
  | [] => some []
  | t :: r => match t.toJson? budget with
    | none => none
    | some v => (itemsToJson? budget r).map (v :: ·)

/-- The members put into those already there. -/
def membersToJson? (budget : Nat) (acc : Members) : List (Option String × Tree) → Option Members
  | [] => some acc
  | (none, _) :: _ => none
  | (some k, t) :: r => match t.toJson? budget with
    | none => none
    | some v => membersToJson? budget (insert k v acc) r

end

/-- How deep a JSON text may nest arrays and objects. -/
def maxDepth : Nat := 127

/-- The value of a JSON text. -/
def read? (s : String) : Option Json :=
  match Tree.read s.toList with
  | (t, true) => t.toJson? maxDepth
  | (_, false) => none

mutual

/-- A value as a tree. -/
def toTree : Json → Tree
  | .null => .null
  | .bool b => .bool b
  | .int n => .int n
  | .float x => .float x
  | .text s => .text s
  | .array xs => .list (itemsToTree xs)
  | .object ms => .record (membersToTree ms)

/-- Values as trees. -/
def itemsToTree : List Json → List Tree
  | [] => []
  | v :: r => v.toTree :: itemsToTree r

/-- Members as trees. -/
def membersToTree : Members → List (Option String × Tree)
  | [] => []
  | (k, v) :: r => (some k, v.toTree) :: membersToTree r

end

end Turnstile.Json
