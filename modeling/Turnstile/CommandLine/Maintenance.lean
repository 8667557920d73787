import Turnstile.CommandLine.Options
import Turnstile.Config.Environment
import Turnstile.Config.File
import Turnstile.Subscription.Ledger

/-!
# Maintenance

What a command does, given the files and variables around it: the settings are read, overridden
from the environment and checked, and then the documents of the subscription group are pruned.
-/

namespace Turnstile.CommandLine

/-- What surrounds a command: the contents of files, the variables of the process, and the clock
in seconds. -/
structure Surroundings where
  file : String → Option String
  process : List (String × String)
  seconds : Int

/-- Why a command failed. -/
inductive Failure where
  | dotenv (path : String)
  | config (cause : ConfigError)
  | database (path : String)
  | store (cause : StoreError)
  deriving DecidableEq, Repr

/-- What is said of a failure. -/
def Failure.message : Failure → String
  | .dotenv path => "failed to read dotenv " ++ path
  | .config .unreadable => "failed to read config"
  | .config .malformed => "invalid config"
  | .config (.broken fault) => "invalid config: " ++ fault.message
  | .database path => "cannot open " ++ path
  | .store cause => cause.message

/-- The environment of a command. -/
def environment (o : Options) (s : Surroundings) : Except Failure Environment :=
  match o.dotenv with
  | none => .ok ⟨[], s.process⟩
  | some path => match s.file path with
    | none => .error (.dotenv path)
    | some contents => .ok (.ofFile contents s.process)

/-- The settings in the configuration file, if one is named. -/
def configured (o : Options) (s : Surroundings) : Except Failure Config :=
  match o.config with
  | none => .ok {}
  | some path => match s.file path with
    | none => .error (.config .unreadable)
    | some contents => match Config.ofText contents with
      | .error e => .error (.config e)
      | .ok c => .ok c

/-- The settings of a command. -/
def settings (o : Options) (s : Surroundings) : Except Failure Config :=
  match environment o s with
  | .error e => .error e
  | .ok env => match configured o s with
    | .error e => .error e
    | .ok c =>
      let c := c.applyEnvironment env
      match c.fault? with
      | some fault => .error (.config (.broken fault))
      | none => .ok c

/-- The line that tells what a pass over the group did. -/
def summaryLine (sum : Subscription.ResetSummary) : String :=
  "\x7b\"visited\":" ++ Decimal.nat sum.visited ++ ",\"updated\":" ++ Decimal.nat sum.updated ++
    ",\"failed\":" ++ Decimal.nat sum.failed ++ "\x7d\n"

/-- Prunes the documents of the group; the result is the line to print. -/
def reset {σ : Type} [UserStore σ] (c : Config) (now : Int) (store : σ) :
    Except Failure String × σ :=
  match Subscription.resetAll c.quota.subscriptionGroup now store with
  | (.error e, store) => (.error (.store e), store)
  | (.ok sum, store) => (.ok (summaryLine sum), store)

/-- The wait between two passes over the group, in seconds. -/
def interval (c : Config) : Nat := max c.quota.resetIntervalSeconds 1

/-- How the program ends: its code, what it printed, and what it complained of. -/
structure Finish where
  code : Nat
  output : String := ""
  complaint : String := ""
  deriving DecidableEq, Repr

/-- The end after a failure. -/
def Finish.ofFailure (f : Failure) : Finish := { code := 1, complaint := f.message }

/-- The end after a text was asked for. -/
def Finish.showing (text : String) : Finish := { code := 0, output := text }

/-- The end after a misuse. -/
def Finish.misuse : Finish := { code := 2, complaint := usage }

/-- What a command line comes to. -/
inductive Outcome (σ : Type) where
  /-- The program ends. The store is `none` where it was not touched. -/
  | finished (finish : Finish) (store : Option σ)
  /-- The documents are to be pruned in intervals, without an end. -/
  | endless (config : Config)

/-- Carries out a command; `store` is `none` where it cannot be opened. -/
def carryOut {σ : Type} [UserStore σ] (o : Options) (s : Surroundings) (store : Option σ) :
    Outcome σ :=
  match settings o s, store with
  | .error f, _ => .finished (.ofFailure f) none
  | .ok _, none => .finished (.ofFailure (.database o.database)) none
  | .ok c, some store => match o.command with
    | .run => .endless c
    | .resetSubscriptions now => match reset c (now.getD s.seconds) store with
      | (.ok line, store) => .finished { code := 0, output := line } (some store)
      | (.error f, store) => .finished (.ofFailure f) (some store)

/-- Carries out a command line; `openStore` gives the store at a path. -/
def execute {σ : Type} [UserStore σ] (args : List String) (s : Surroundings)
    (openStore : String → Option σ) : Outcome σ :=
  match read args with
  | .act o => carryOut o s (openStore o.database)
  | .show text => .finished (.showing text) none
  | .misuse => .finished .misuse none

end Turnstile.CommandLine
