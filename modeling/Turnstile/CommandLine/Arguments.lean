import Turnstile.Decimal.Integer
import Turnstile.Text.Blank

/-!
# Arguments of a command line

Options are written `--name value`, `--name=value` or, without a value, `--name`; each may be
given once. An option's value does not begin with a dash unless it is written behind an equals
sign. The first argument that is neither an option nor a value names a command, to which all that
follow belong. A question for help or for the version is answered where it stands, whatever is
missing elsewhere; a fault that stands before it comes first.
-/

namespace Turnstile.CommandLine

/-- An option with a value: its name and which values it takes. -/
structure Rule where
  name : String
  accepts : String → Bool

/-- What may stand on a command line. -/
structure Grammar where
  valued : List Rule
  flags : List String
  commands : List String
  /-- The version may be asked for. -/
  versioned : Bool

/-- What an argument looks like. -/
inductive Shape where
  /-- Two dashes and nothing else: no option follows. -/
  | endOfOptions
  | long (name : String) (value : Option String)
  | short (letters : List Char)
  | plain
  deriving DecidableEq, Repr

/-- The look of an argument. -/
def shapeOf (arg : String) : Shape :=
  match arg.toList with
  | ['-', '-'] => .endOfOptions
  | '-' :: '-' :: r => match Text.cutAt '=' r with
    | some (name, value) => .long (String.ofList name) (some (String.ofList value))
    | none => .long (String.ofList r) none
  | '-' :: c :: r => .short (c :: r)
  | _ => .plain

/-- What has been given so far. The last option stays `pending` until the next: its value may
still be missing. -/
structure Given where
  values : List (String × String) := []
  flags : List String := []
  pending : Option (String × Option String) := none
  deriving DecidableEq, Repr

namespace Given

/-- The value of an option. -/
def value? (g : Given) (name : String) : Option String :=
  (g.values.find? fun v => v.1 == name).map Prod.snd

/-- Takes in the pending option, unless its value is missing or not accepted, or the option has
been given before. -/
def settle? (grammar : Grammar) (g : Given) : Option Given :=
  match g.pending with
  | none => some g
  | some (_, none) => none
  | some (name, some value) =>
    if (g.value? name).isSome then none
    else if grammar.valued.any fun r => r.name == name && r.accepts value then
      some { g with values := (name, value) :: g.values, pending := none }
    else none

/-- Takes in a flag. -/
def addFlag? (name : String) (g : Given) : Option Given :=
  if g.flags.contains name then none else some { g with flags := name :: g.flags }

end Given

/-- What a command line comes to. -/
inductive Scan where
  | help
  | version
  | misuse
  | ended (given : Given)
  | command (name : String) (rest : List String) (given : Given)

/-- Goes on with what has been given, unless it is a misuse. -/
def orMisuse (g : Option Given) (f : Given → Scan) : Scan :=
  match g with
  | none => .misuse
  | some g => f g

/-- Reads arguments up to the end or to the name of a command. -/
def scan (grammar : Grammar) : List String → Given → Scan
  | [], g => orMisuse (g.settle? grammar) .ended
  | arg :: rest, g => match shapeOf arg with
    | .endOfOptions => if rest.isEmpty then orMisuse (g.settle? grammar) .ended else .misuse
    | .short letters =>
      orMisuse (g.settle? grammar) fun _ =>
        if letters.head? = some 'h' then .help
        else if grammar.versioned && letters.head? = some 'V' then .version
        else .misuse
    | .long name value =>
      if name = "help" then
        orMisuse (g.settle? grammar) fun _ => if value.isSome then .misuse else .help
      else if grammar.versioned && name = "version" then
        orMisuse (g.settle? grammar) fun _ => if value.isSome then .misuse else .version
      else match g.settle? grammar with
        | none => .misuse
        | some g =>
          if grammar.valued.any fun r => r.name == name then
            scan grammar rest { g with pending := some (name, value) }
          else if grammar.flags.contains name && value.isNone then
            match g.addFlag? name with
            | none => .misuse
            | some g => scan grammar rest g
          else .misuse
    | .plain => match g.pending with
      | some (name, none) => scan grammar rest { g with pending := some (name, some arg) }
      | _ => if grammar.commands.contains arg then .command arg rest g else .misuse

end Turnstile.CommandLine
