import Turnstile.CommandLine.Arguments

/-!
# The maintenance commands

The commands that keep a store in order, their options, and what is told about them when help is
asked for.
-/

namespace Turnstile.CommandLine

/-- What is to be done. -/
inductive Command where
  /-- Prune the documents of the subscription group once, perhaps for another time than now. -/
  | resetSubscriptions (now : Option Int)
  /-- Prune them in intervals, without an end. -/
  | run
  deriving DecidableEq, Repr

/-- The options of a command line. -/
structure Options where
  database : String
  config : Option String
  dotenv : Option String
  jsonLogs : Bool
  command : Command
  deriving DecidableEq, Repr

/-- What a command line asks for. -/
inductive Reading where
  | show (text : String)
  | misuse
  | act (options : Options)
  deriving DecidableEq, Repr

/-- An option that names a file. -/
def path (name : String) : Rule := ⟨name, fun s => s ≠ ""⟩

/-- The options that stand before the command. -/
def grammar : Grammar where
  valued := [path "sqlite", path "config", path "dotenv"]
  flags := ["json-logs"]
  commands := ["reset-subscriptions", "run", "help"]
  versioned := true

/-- The options of the command `reset-subscriptions`. -/
def resetGrammar : Grammar where
  valued := [⟨"now", fun s => (Decimal.readSigned? s.toList).isSome⟩]
  flags := []
  commands := []
  versioned := false

/-- The options of the command `run`. -/
def runGrammar : Grammar where
  valued := []
  flags := []
  commands := []
  versioned := false

/-- Lines of text, each with its end. -/
def unlines (lines : List String) : String := String.join (lines.map fun l => l ++ "\n")

/-- The name and the version of the program. -/
def versionText : String := unlines ["relay-admission 0.1.0"]

/-- How the program is used. -/
def usageLine : String := "Usage: relay-admission [OPTIONS] --sqlite <SQLITE> <COMMAND>"

/-- What is said of a misuse. -/
def usage : String := usageLine ++ "\n\nFor more information, try \x27--help\x27."

/-- Help on the program. -/
def help : String := unlines
  ["Maintenance commands for the relay admission store",
   "",
   usageLine,
   "",
   "Commands:",
   "  reset-subscriptions  Roll over every subscription user\x27s windows once and exit",
   "  run                  Run the periodic reset sweep until Ctrl-C",
   "  help                 Print this message or the help of the given subcommand(s)",
   "",
   "Options:",
   "      --sqlite <SQLITE>  SQLite database holding users and tokens",
   "      --config <CONFIG>  TOML config file",
   "      --dotenv <DOTENV>  Dotenv file layered over the process environment",
   "      --json-logs        ",
   "  -h, --help             Print help",
   "  -V, --version          Print version"]

/-- Help on a command. -/
def helpOn? : String → Option String
  | "reset-subscriptions" => some (unlines
      ["Roll over every subscription user\x27s windows once and exit",
       "",
       "Usage: relay-admission --sqlite <SQLITE> reset-subscriptions [OPTIONS]",
       "",
       "Options:",
       "      --now <NOW>  Override the current time (epoch seconds)",
       "  -h, --help       Print help"])
  | "run" => some (unlines
      ["Run the periodic reset sweep until Ctrl-C",
       "",
       "Usage: relay-admission --sqlite <SQLITE> run",
       "",
       "Options:",
       "  -h, --help  Print help"])
  | "help" => some (unlines
      ["Print this message or the help of the given subcommand(s)",
       "",
       "Usage: relay-admission --sqlite <SQLITE> help [COMMAND]...",
       "",
       "Arguments:",
       "  [COMMAND]...  Print help for the subcommand(s)"])
  | _ => none

/-- Shows a text, if there is one to show. -/
def showing : Option String → Reading
  | some text => .show text
  | none => .misuse

/-- Reads the options behind a command; those before it are `given`. -/
def readCommand (name : String) (sub : Grammar) (make : Given → Command) (rest : List String)
    (given : Given) : Reading :=
  match scan sub rest {} with
  | .help => showing (helpOn? name)
  | .ended own => match given.settle? grammar with
    | none => .misuse
    | some given => match given.value? "sqlite" with
      | none => .misuse
      | some database => .act
        { database := database
          config := given.value? "config"
          dotenv := given.value? "dotenv"
          jsonLogs := given.flags.contains "json-logs"
          command := make own }
  | _ => .misuse

/-- Reads a command line. -/
def read (args : List String) : Reading :=
  match scan grammar args {} with
  | .help => .show help
  | .version => .show versionText
  | .misuse | .ended _ => .misuse
  | .command "help" [] _ => .show help
  | .command "help" [name] _ => showing (helpOn? name)
  | .command "reset-subscriptions" rest given =>
    readCommand "reset-subscriptions" resetGrammar
      (fun own => .resetSubscriptions
        ((own.value? "now").bind fun s => Decimal.readSigned? s.toList)) rest given
  | .command "run" rest given => readCommand "run" runGrammar (fun _ => .run) rest given
  | .command _ _ _ => .misuse

end Turnstile.CommandLine
