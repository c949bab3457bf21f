/-
**The program.**

The words of the command line become a command; files, the clock and random bytes are read for it;
what it prints is printed, and a failure ends the program with a status of its own.

Main definitions:

* `filesFor` — the files that a command may read;
* `main` — the program.
-/

import HubReplication.Cli.Run
import Std.Time.DateTime.Timestamp

set_option relaxedAutoImplicit false
set_option autoImplicit false

namespace HubReplication

/-- The text in a file, if it can be read. -/
def contentOf (path : String) : IO (Option String) := do
  try
    return some (← IO.FS.readFile path)
  catch _ =>
    return none

/-- The files that a command may read: its configuration, and the certificate that this names. -/
def filesFor (command : CommandLine) : IO (List (String × String)) := do
  match command.configPath? with
  | none => return []
  | some path =>
    match ← contentOf path with
    | none => return []
    | some text =>
      let named := ((Json.parse? text).bind NodeConfig.ofJson?).bind (·.security.certificatePath)
      match named with
      | none => return [(path, text)]
      | some other =>
        let content ← contentOf other
        return (path, text) :: (content.map fun c => (other, c)).toList

/-- The time of the calendar. -/
def calendarNow : IO Instant := do
  let nanos := (← Std.Time.Timestamp.now).toNanosecondsSinceUnixEpoch.val
  return ⟨nanos / 1000000000, (nanos % 1000000000).toNat⟩

/-- What a command is given. -/
def surroundingsFor (command : CommandLine) : IO Surroundings := do
  let files ← filesFor command
  let bytes ← IO.getRandomBytes GeneratedCertificate.entropyLength.toUSize
  return {
    fileAt := fun path => files.lookup path
    now := ← calendarNow
    entropy := .ofBytes bytes.toList }

/-- Print what a command does; the status of the program. -/
def report : CommandResult → IO UInt32
  | .printed text => do
    IO.println text
    return 0
  | .issued generated => do
    IO.println generated.toJson.pretty
    return 0
  | .failed e => do
    IO.eprintln e.display
    return 1
  | .beyondCalendar => do
    IO.eprintln "the validity ends beyond the calendar"
    return 1
  | .tornFilter => do
    IO.eprintln "the log filter cannot be cut into parts"
    return 1
  | .serving config => do
    IO.eprintln (CommandError.display
      ⟨.bootFailed, "no sockets to listen on at " ++ config.listenAddress⟩)
    return 1

end HubReplication

open HubReplication

/-- Run the command that the words of the command line ask for. -/
def main (words : List String) : IO UInt32 := do
  match CommandLine.parse words with
  | .error problem =>
    IO.eprintln problem.name
    return if problem = .displayHelp || problem = .displayVersion then 0 else 2
  | .ok command => report (command.run (← surroundingsFor command))
