import Std.Time.DateTime.Timestamp
import Turnstile.CommandLine.Maintenance
import Turnstile.Store.Saved

/-!
# The program

Reads the files that a command line names, carries the command out and writes the store back. The
pruning in intervals goes on until the program is interrupted.
-/

namespace Turnstile.CommandLine

/-- The clock in seconds. -/
def clock : IO Int := do
  return (← Std.Time.Timestamp.now).toSecondsSinceUnixEpoch.val

/-- The contents of a file, if it can be read. -/
def contents? (path : String) : IO (Option String) := do
  try
    return some (← IO.FS.readFile path)
  catch _ =>
    return none

/-- The store in a file; one that is not there yet is a store without rows. -/
def storeIn? (path : String) : IO (Option TableStore) := do
  try
    return TableStore.ofSaved? (← IO.FS.readFile path)
  catch
    | .noFileOrDirectory _ _ _ => return some {}
    | _ => return none

/-- Writes the store back; the result tells whether that was possible. -/
def keep (path : String) (store : TableStore) : IO Bool := do
  try
    IO.FS.writeFile (path ++ ".new") store.save
    IO.FS.rename (path ++ ".new") path
    return true
  catch _ =>
    return false

/-- What surrounds a command. -/
def surroundings (o : Options) : IO Surroundings := do
  let paths := o.config.toList ++ o.dotenv.toList
  let files ← paths.filterMapM fun p => do
    return (← contents? p).map fun text => (p, text)
  let process ← Config.variableNames.filterMapM fun name => do
    return (← IO.getEnv name).map fun value => (name, value)
  return { file := fun p => (files.find? fun f => f.1 == p).map Prod.snd
           process := process
           seconds := ← clock }

/-- Waits for some seconds. -/
def pause : Nat → IO Unit
  | 0 => return
  | n + 1 => do
    IO.sleep 1000
    pause n

/-- Prunes the documents of the group, again and again. -/
partial def pruneForever (path : String) (c : Config) : IO Unit := do
  match ← storeIn? path with
  | none => IO.eprintln (Failure.database path).message
  | some store => match reset c (← clock) store with
    | (.error f, _) => IO.eprintln f.message
    | (.ok _, store) =>
      if !(← keep path store) then IO.eprintln (Failure.database path).message
  pause (interval c)
  pruneForever path c

/-- Ends the program. -/
def finish (f : Finish) : IO UInt32 := do
  IO.print f.output
  if f.complaint ≠ "" then IO.eprintln f.complaint
  return f.code.toUInt32

/-- Carries out a command line. -/
def serve (args : List String) : IO UInt32 := do
  match read args with
  | .act o => do
    let store ← storeIn? o.database
    match carryOut o (← surroundings o) store with
    | .finished f none => finish f
    | .finished f (some store) =>
      if ← keep o.database store then finish f
      else finish (.ofFailure (.database o.database))
    | .endless c => do
      pruneForever o.database c
      return 0
  | .show text => finish (.showing text)
  | .misuse => finish .misuse

end Turnstile.CommandLine

/-- Carries out the command line with which the program was started. -/
def main (args : List String) : IO UInt32 := Turnstile.CommandLine.serve args
