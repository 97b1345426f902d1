import ProposalBoard.Session
import Std.Time.DateTime.Timestamp

/-!
# The program

Carries out a command line: looks at the wall clock, reads the files that the command names, and
prints or writes what the command comes to.
-/

namespace ProposalBoard

/-- The content of the file at a path, if it can be read. -/
def contentAt (path : String) : IO (Option ByteArray) := do
  let .ok content ← (IO.FS.readBinFile path).toBaseIO | return none
  return some content

/-- The instant that the wall clock shows. -/
def wallClock : IO Instant := do
  let time ← Std.Time.Timestamp.now
  return (Instant.ofParts? time.val.second.val time.val.nano.val.toNat).getD .epoch

/-- Opens a log file to add to it. If that fails, the directories on the way are made first. -/
def LogPlace.openForAppend (place : LogPlace) : IO IO.FS.Handle := do
  match ← (IO.FS.Handle.mk place.path .append).toBaseIO with
  | .ok handle => return handle
  | .error _ =>
    IO.FS.createDirAll place.directory
    IO.FS.Handle.mk place.path .append

/-- Carries out what a command comes to. -/
def Effect.carryOut : Effect → IO Unit
  | .print text => IO.print text
  | .write path text => IO.FS.writeFile path text

/-- Carries out a command. -/
def Command.carryOut (command : Command) : IO (Except Error Unit) := do
  let contents ← command.inputs.mapM fun path => return (path, ← contentAt path)
  match command.effect (fun path => (contents.lookup path).join) (← wallClock) with
  | .error e => return .error e
  | .ok effect =>
    match ← effect.carryOut.toBaseIO, effect with
    | .error _, .write path _ => return .error (.file path)
    | _, _ => return .ok ()

/-- Carries out a command line and tells how it ended. -/
def CommandLine.carryOut (line : CommandLine) : IO Ending := do
  let mut log := none
  if let some path := line.logFile then
    match ← (LogPlace.ofPath path).openForAppend.toBaseIO with
    | .ok handle => log := some handle
    | .error _ => return .noLog
  match ← line.command.carryOut with
  | .ok () => return .success
  | .error e =>
    if let some handle := log then handle.putStrLn e.message
    return .failure e

/-- What is shown to someone who asks for help. -/
def usageText : String :=
  "\n".intercalate [
    "Usage: metagov [--log-file FILE] COMMAND",
    "",
    "Commands:",
    "  board --input FILE [--config FILE] [--now TIME]",
    "  status --input FILE [--config FILE] [--now TIME] --id ID",
    "  init-config [--out FILE]",
    ""]

/-- Carries out the words of a command line. -/
def carryOut (words : List String) : IO UInt32 := do
  let ending ← match CommandLine.ofWords words with
    | .ok line => line.carryOut
    | .error e => pure (.usage e)
  match ending with
  | .success => pure ()
  | .failure e => IO.eprintln ("metagov failed: " ++ e.message)
  | .usage .helpRequested => IO.print usageText
  | .usage _ => IO.eprint usageText
  | .noLog => IO.eprintln "metagov failed: no log file can be opened"
  return ending.exitCode

end ProposalBoard

/-- The program. -/
def main (words : List String) : IO UInt32 :=
  ProposalBoard.carryOut words
