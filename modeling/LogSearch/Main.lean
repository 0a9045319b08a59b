import LogSearch.CommandLine
import LogSearch.Uuid
import Std.Time.DateTime.Timestamp

/-!
# The program

Reads the files that a command line names, runs the command, and prints what it
yields; a failure goes to the error output.
-/

namespace LogSearch

namespace Program

/-- The catalog that is read when none is named. -/
def defaultCatalog : String := "catalog.json"

/-- How the program is called. -/
def usage : String :=
  "usage: logsearch (apply | expand | streams | plan | extract) --query FILE [--state FILE]\n"
    ++ "         [--search-type ID --response FILE] [--config FILE]"

/-- Read a file, if there is one. -/
def load (file : File) : IO File := do
  match ← (IO.FS.readFile file.name).toBaseIO with
  | .ok text => return { file with text := some text }
  | .error _ => return { file with text := none }

/-- Read the catalog; a file that does not exist stands for an empty catalog. -/
def loadCatalog (name : String) : IO (Except CommandError Catalog) := do
  let file ← load ⟨name, none⟩
  if file.text.isNone then return .ok {}
  return do File.lift (Catalog.ofJson (← file.readJson))

/-- The present moment. -/
def now : IO Instant := do
  let time ← Std.Time.Timestamp.now
  let nanoseconds := time.toNanosecondsSinceUnixEpoch.val
  let moment := Instant.at? (nanoseconds / 1000000000) (nanoseconds % 1000000000).toNat
  return moment.getD .epoch

/-- A random start for new ids. -/
def randomStart : IO Nat := do
  let bytes ← IO.getRandomBytes 16
  return bytes.toList.foldl (fun total byte => total * 256 + byte.toNat) 0

/-- Run the command of a command line. -/
def run (arguments : Arguments) (command : Command) : IO (Except CommandError Output) := do
  match ← loadCatalog ((arguments.options.get? "config").getD defaultCatalog) with
  | .error error => return .error error
  | .ok catalog =>
    let start ← randomStart
    let setting : Setting := { catalog, now := ← now, fresh := Uuid.freshIds start }
    return (← command.mapFiles load).run setting

end Program

end LogSearch

open LogSearch in
/-- Run the program: exit code 1 for a failed command, 2 for a command line that makes no sense. -/
def main (args : List String) : IO UInt32 := do
  match do
      let arguments ← Arguments.sort {} args
      return (arguments, ← arguments.command) with
  | .error (reason : String) =>
    IO.eprintln reason
    IO.eprintln Program.usage
    return 2
  | .ok (arguments, command) =>
    match ← Program.run arguments command with
    | .ok output =>
      IO.println output.text
      return 0
    | .error error =>
      IO.eprintln error.message
      return 1
