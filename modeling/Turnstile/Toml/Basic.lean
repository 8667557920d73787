import Turnstile.Json.Tree

/-!
# Tables of a configuration file

A file fills a tree of tables line by line: a header opens a table, and a key, perhaps of several
parts joined by points, puts a value into it. No table is defined twice: a header may open a table
that so far exists only because a longer header names it, and points may lead only through tables
that were made by points. Values written in place, arrays and tables alike, are closed.
-/

namespace Turnstile.Toml

/-- How a table came to be. -/
inductive Origin where
  /-- Written in place, in braces. -/
  | inPlace
  /-- On the way to the table of a longer header. -/
  | onTheWay
  /-- By the points of a key. -/
  | points
  /-- By its own header. -/
  | header
  deriving DecidableEq, Repr

/-- What stands under a key. -/
inductive Node where
  | text (s : String)
  | int (n : Int)
  | float (x : Float)
  | bool (b : Bool)
  | date (s : String)
  | array (items : List Node)
  | table (origin : Origin) (entries : List (String × Node))
  | tables (elements : List (List (String × Node)))
  deriving Inhabited

/-- The entries of a table. -/
abbrev Entries := List (String × Node)

namespace Entries

/-- The node under a key. -/
def find? (key : String) : Entries → Option Node
  | [] => none
  | (k, n) :: r => if key = k then some n else find? key r

/-- Puts a node under a key, in the place of the one that was there. -/
def put (key : String) (n : Node) : Entries → Entries
  | [] => [(key, n)]
  | (k, m) :: r => if key = k then (k, n) :: r else (k, m) :: put key n r

/-- Changes the table at the end of a path, making those on the way that are missing. `byPoints`
tells that the path is of points within a key and not of a header. -/
def change (byPoints : Bool) (f : Origin → Entries → Option Entries) :
    List String → Origin → Entries → Option Entries
  | [], origin, es => f origin es
  | k :: ks, _, es => match es.find? k with
    | none =>
      let origin := if byPoints then Origin.points else .onTheWay
      (change byPoints f ks origin []).map fun sub => es.put k (.table origin sub)
    | some (.table origin sub) =>
      if origin = .inPlace || (byPoints && origin = .header) then none
      else (change byPoints f ks origin sub).map fun sub => es.put k (.table origin sub)
    | some (.tables elements) => match elements.reverse with
      | [] => none
      | last :: before => (change byPoints f ks .header last).map fun last =>
          es.put k (.tables (before.reverse ++ [last]))
    | some _ => none

/-- Puts a value under a key of one or more parts. -/
def insert (path : List String) (key : String) (value : Node) (origin : Origin)
    (es : Entries) : Option Entries :=
  change true (fun origin es =>
    if (origin == .points) == path.isEmpty then none
    else match es.find? key with
      | some _ => none
      | none => some (es ++ [(key, value)])) path origin es

/-- Opens the table of a header. -/
def openTable (path : List String) (key : String) (es : Entries) : Option Entries :=
  change false (fun _ es => match es.find? key with
    | none => some (es ++ [(key, .table .header [])])
    | some (.table .onTheWay sub) => some (es.put key (.table .header sub))
    | some _ => none) path .header es

/-- Opens a further table of the array of tables of a header. -/
def openElement (path : List String) (key : String) (es : Entries) : Option Entries :=
  change false (fun _ es => match es.find? key with
    | none => some (es ++ [(key, .tables [[]])])
    | some (.tables elements) => some (es.put key (.tables (elements ++ [[]])))
    | some _ => none) path .header es

end Entries

/-- The member under which a date stands where a table is asked for. -/
def dateMember : String := "$__toml_private_datetime"

mutual

/-- A node as a tree. -/
def Node.toTree : Node → Json.Tree
  | .text s => .text s
  | .int n => .int n
  | .float x => .float x
  | .bool b => .bool b
  | .date s => .record [(some dateMember, .text s)]
  | .array items => .list (itemsToTree items)
  | .table _ entries => .record (entriesToTree entries)
  | .tables elements => .list (tablesToTree elements)

/-- Items as trees. -/
def itemsToTree : List Node → List Json.Tree
  | [] => []
  | n :: r => n.toTree :: itemsToTree r

/-- Entries as members. -/
def entriesToTree : List (String × Node) → List (Option String × Json.Tree)
  | [] => []
  | (k, n) :: r => (some k, n.toTree) :: entriesToTree r

/-- The tables of an array of tables as trees. -/
def tablesToTree : List (List (String × Node)) → List Json.Tree
  | [] => []
  | es :: r => .record (entriesToTree es) :: tablesToTree r

end

end Turnstile.Toml
