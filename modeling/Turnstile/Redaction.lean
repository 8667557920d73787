import Turnstile.Text.Blank
import Turnstile.Json.Basic
import Turnstile.Pattern.Engine

/-!
# Redaction

Documents that leave the gateway are rid of credentials first. The value of a member with a listed
name is replaced whole. In the texts under certain members the values of listed query parameters
are replaced, and in every text the matches of the patterns, one pattern after the other. Keys,
numbers and the shape of the document stay as they are.

Names are compared without the white space around them and without regard to the case of ASCII
letters. The patterns are read and matched by an engine, which is `Pattern.engine` where no other
is named.
-/

namespace Turnstile

/-- What is to be redacted, as configured. -/
structure RedactionRules where
  replacement : String
  keyNames : List String
  queryParams : List String
  queryKeys : List String
  patterns : List String
  deriving DecidableEq, Repr

namespace RedactionRules

/-- The rules where none are configured. -/
def default : RedactionRules where
  replacement := "<redacted>"
  keyNames :=
    ["authorization", "proxy-authorization", "x-api-key", "api-key", "api_key", "cookie",
     "set-cookie", "token"]
  queryParams := ["api_key", "key", "token", "access_token"]
  queryKeys := ["url", "path", "query"]
  patterns := ["(?i)bearer\\s+[A-Za-z0-9._\\-]+", "sk-[A-Za-z0-9]\x7b8,\x7d"]

end RedactionRules

/-- Why rules cannot be applied. -/
inductive RedactionFault where
  | emptyReplacement
  | badPattern (text : String)
  deriving DecidableEq, Repr

/-- Rules made ready: names in comparable form, patterns read. -/
structure Redactor where
  replacement : String
  keyNames : List String
  queryParams : List String
  queryKeys : List String
  patterns : List Finder

namespace Redactor

/-- A name in the form in which names are compared. -/
def normalName (s : String) : String := Text.lower (Text.trim s)

/-- Names in comparable form, those that are blank left out. -/
def normalNames (names : List String) : List String :=
  (names.map normalName).filter fun s => s ≠ ""

/-- Reads the patterns. Blank ones are left out. -/
def readPatterns (engine : PatternEngine) : List String → Except RedactionFault (List Finder)
  | [] => .ok []
  | text :: r =>
    let text := Text.trim text
    if text = "" then readPatterns engine r
    else match engine text with
      | none => .error (.badPattern text)
      | some p => match readPatterns engine r with
        | .error e => .error e
        | .ok ps => .ok (p :: ps)

/-- Makes rules ready. -/
def ofRules? (rules : RedactionRules) (engine : PatternEngine := Pattern.engine) :
    Except RedactionFault Redactor :=
  let replacement := Text.trim rules.replacement
  if replacement = "" then .error .emptyReplacement
  else match readPatterns engine rules.patterns with
    | .error e => .error e
    | .ok ps => .ok
      { replacement := replacement
        keyNames := normalNames rules.keyNames
        queryParams := normalNames rules.queryParams
        queryKeys := normalNames rules.queryKeys
        patterns := ps }

/-- Makes rules ready, the default ones where they cannot be applied. -/
def ofRules (rules : RedactionRules) (engine : PatternEngine := Pattern.engine) : Redactor :=
  match ofRules? rules engine with
  | .ok r => r
  | .error _ => match ofRules? RedactionRules.default engine with
    | .ok r => r
    | .error _ => ⟨"<redacted>", [], [], [], []⟩

/-- A parameter of a query, its value replaced if its name is listed. -/
def redactPair (params : List String) (replacement : String) (pair : List Char) : List Char :=
  let key := match Text.cutAt '=' pair with
    | some (key, _) => key
    | none => pair
  if params.contains (normalName (String.ofList key)) then key ++ '=' :: replacement.toList
  else pair

/-- A query, up to a `#` if one stands in it, with its parameters redacted. -/
def redactPairs (params : List String) (replacement : String) (rest : List Char) : List Char :=
  let redacted (query : List Char) : List Char :=
    Text.joinWith ['&'] ((Text.pieces '&' query).map (redactPair params replacement))
  match Text.cutAt '#' rest with
  | some (query, fragment) => redacted query ++ '#' :: fragment
  | none => redacted rest

/-- The query of a text redacted: what follows the first `?`, or a text without one that has an
equals sign and no blank. -/
def redactQuery (params : List String) (replacement : String) (cs : List Char) : List Char :=
  match Text.cutAt '?' cs with
  | some (front, rest) => front ++ '?' :: redactPairs params replacement rest
  | none => if cs.contains '=' && !cs.contains ' ' then redactPairs params replacement cs else cs

/-- A text with its query redacted, if it stands under a member for that, and all matches of the
patterns replaced. -/
def redactText (r : Redactor) (inQuery : Bool) (cs : List Char) : List Char :=
  r.patterns.foldl (fun cs p => p.replaceAll r.replacement.toList cs)
    (if inQuery then redactQuery r.queryParams r.replacement cs else cs)

mutual

/-- A value redacted. `inQuery` tells that it stands under a member whose queries are redacted. -/
def redactValue (r : Redactor) (inQuery : Bool) : Json → Json
  | .text s => .text (String.ofList (r.redactText inQuery s.toList))
  | .array xs => .array (redactItems r inQuery xs)
  | .object ms => .object (redactMembers r inQuery ms)
  | v => v

/-- Items redacted. -/
def redactItems (r : Redactor) (inQuery : Bool) : List Json → List Json
  | [] => []
  | v :: rest => redactValue r inQuery v :: redactItems r inQuery rest

/-- Members redacted, those with a listed name whole. -/
def redactMembers (r : Redactor) (inQuery : Bool) : Json.Members → Json.Members
  | [] => []
  | (k, v) :: rest =>
    let name := normalName k
    let v :=
      if r.keyNames.contains name then .text r.replacement
      else redactValue r (inQuery || r.queryKeys.contains name) v
    (k, v) :: redactMembers r inQuery rest

end

/-- A document redacted. -/
def redact (r : Redactor) (v : Json) : Json := r.redactValue false v

end Redactor

end Turnstile
