import Turnstile.Text.Quoted
import Turnstile.Config.Basic

/-!
# Settings from the environment

Some settings are deployed apart from the configuration: as variables of the process, or as lines
`KEY=value` of a file that lies over them. A value is looked up in the file first; a key that the
file has hides the variable of that name. A blank value counts as none.

A line of the file may start with `export`. A value in quotes ends at the next quote of that kind
and is taken as it stands between them; any other ends before a blank with a number sign behind
it. A line that starts with a number sign, has no equals sign, no key or no value makes no entry.
-/

namespace Turnstile

/-- A file of settings and the variables that it lies over. -/
structure Environment where
  file : List (String × String) := []
  process : List (String × String) := []
  deriving DecidableEq, Repr

namespace Environment

/-- The text before the first blank that has a number sign behind it. -/
def beforeComment : List Char → List Char
  | [] => []
  | c :: r => if c = ' ' && r.head? = some '#' then [] else c :: beforeComment r

/-- The value written behind an equals sign. -/
def value (cs : List Char) : List Char :=
  match Text.strip cs with
  | '"' :: r => r.takeWhile (· ≠ '"')
  | '\x27' :: r => r.takeWhile (· ≠ '\x27')
  | r => Text.stripRight (beforeComment r)

/-- The word that may stand before a key. -/
def exportWord : List Char := ['e', 'x', 'p', 'o', 'r', 't', ' ']

/-- A line without the word before its key. -/
def withoutExport (line : List Char) : List Char :=
  if exportWord.isPrefixOf line then Text.stripLeft (line.drop exportWord.length) else line

/-- The entry that a line makes. -/
def entry? (line : List Char) : Option (String × String) :=
  let line := Text.strip line
  if line.head? = some '#' then none
  else match Text.cutAt '=' (withoutExport line) with
    | none => none
    | some (key, written) =>
      let key := Text.strip key
      let value := value written
      if key.isEmpty || value.isEmpty then none
      else some (String.ofList key, String.ofList value)

/-- Puts an entry in the order of the keys, in place of one of the same key. -/
def put (key value : String) : List (String × String) → List (String × String)
  | [] => [(key, value)]
  | (k, v) :: r =>
    if key = k then (key, value) :: r
    else if key < k then (key, value) :: (k, v) :: r
    else (k, v) :: put key value r

/-- The entries of a file, in the order of their keys; of two with one key the later stays. -/
def readFile (contents : String) : List (String × String) :=
  ((Text.pieces '\n' contents.toList).filterMap entry?).foldl
    (fun entries e => put e.1 e.2 entries) []

/-- A file of settings over variables. -/
def ofFile (contents : String) (process : List (String × String)) : Environment :=
  ⟨readFile contents, process⟩

/-- The value under a key, blank or not: that of the file, else that of the variable. -/
def lookup? (env : Environment) (key : String) : Option String :=
  match env.file.find? fun e => e.1 == key with
  | some (_, v) => some v
  | none => (env.process.find? fun e => e.1 == key).map Prod.snd

/-- The value under a key, if it is not blank. -/
def get? (env : Environment) (key : String) : Option String :=
  (env.lookup? key).filter fun v => !Text.blank v

/-- The integer under a key. -/
def getInt? (env : Environment) (key : String) : Option Int :=
  match env.get? key with
  | none => none
  | some v => Decimal.readSigned? (Text.strip v.toList)

/-- What may be told of an environment: the keys of its file, and no value. -/
def summary (env : Environment) : String :=
  "Env \x7b file_keys: [" ++ Text.join ", " (env.file.map fun e => Text.quote e.1) ++ "] \x7d"

end Environment

/-- The variables that override settings. -/
def Config.variableNames : List String :=
  ["MODERATION_WEBHOOK_URL", "MODERATION_ENABLED_GROUPS", "TRUST_QUOTA"]

/-- The settings with those that the environment overrides. -/
def Config.applyEnvironment (c : Config) (env : Environment) : Config :=
  let moderation := c.moderation
  let moderation := match env.get? "MODERATION_WEBHOOK_URL" with
    | some url => { moderation with webhookUrl := some (Text.trim url) }
    | none => moderation
  let moderation := match env.get? "MODERATION_ENABLED_GROUPS" with
    | some groups => { moderation with enabledGroups := groups }
    | none => moderation
  let quota := match env.getInt? "TRUST_QUOTA" with
    | some n => { c.quota with trustQuota := n }
    | none => c.quota
  { c with moderation := moderation, quota := quota }

end Turnstile
