/-
The program: reads what a command may need, runs it, and prints and writes what came of it.
-/
import MetricQuery.CommandLine
import Std.Time.DateTime.Timestamp

namespace MetricQuery

/-- the variables that are set -/
def readEnvironment : IO Settings.Environment := do
  let pairs ← Settings.variableNames.mapM fun name => do
    pure ((← IO.getEnv name).map fun value => (name, value))
  pure (Keyed.insertAll [] pairs.reduceOption)

/-- why a file cannot be read or written, in the words of the operating system -/
def reasonOf : IO.Error → String
  | .noFileOrDirectory _ code details | .permissionDenied _ code details | .inappropriateType _ code details =>
    s!"{details.capitalize} (os error {code})"
  | .userError _ => "stream did not contain valid UTF-8"
  | e => toString e

/-- content of a file, or why it cannot be read -/
def readFile (path : String) : IO (Except String String) := do
  try
    pure (.ok (← IO.FS.withFile path .read fun handle => handle.readToEnd))
  catch e =>
    pure (.error (reasonOf e))

def writeFile (path content : String) : IO (Except String Unit) := do
  try
    pure (.ok (← IO.FS.writeFile path content))
  catch e =>
    pure (.error (reasonOf e))

end MetricQuery

open MetricQuery in
def main (args : List String) : IO UInt32 := do
  let env ← readEnvironment
  let contents ← (CommandLine.wanted args env).mapM fun path => do pure (path, ← readFile path)
  let files : Settings.Files := fun path => (contents.lookup path).getD (.error "not read")
  let now ← Std.Time.Timestamp.now
  let outcome := CommandLine.run ⟨files, env, now.toSecondsSinceUnixEpoch.val⟩ args
  let outcome ← match outcome.written with
    | some (path, content) => do pure (outcome.afterWriting (← writeFile path content))
    | none => pure outcome
  IO.print outcome.stdout
  IO.eprint outcome.stderr
  pure outcome.exit.toUInt32
