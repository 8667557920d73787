import Turnstile.Config.Form
import Turnstile.Toml.Reader

/-!
# Configuration files

A configuration file is a tree of tables. It is read, its tables are taken as the parts of the
settings, and the settings have to obey their rules.
-/

namespace Turnstile

/-- Why a configuration file gives no settings. -/
inductive ConfigError where
  /-- The file could not be read. -/
  | unreadable
  /-- Not the text of a tree of tables, or a setting of another type. -/
  | malformed
  /-- A rule is broken. -/
  | broken (fault : ConfigFault)
  deriving DecidableEq, Repr

/-- The settings that a text states, whether or not they obey their rules. -/
def Config.parse? (text : String) : Option Config :=
  match Toml.read? text with
  | none => none
  | some entries => match Config.decode Json.maxDepth (.record (Toml.entriesToTree entries)) with
    | .ok c => some c
    | .error _ => none

/-- The settings that a text states. -/
def Config.ofText (text : String) : Except ConfigError Config :=
  match Config.parse? text with
  | none => .error .malformed
  | some c => match c.fault? with
    | some fault => .error (.broken fault)
    | none => .ok c

end Turnstile
