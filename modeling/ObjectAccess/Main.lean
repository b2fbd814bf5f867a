import ObjectAccess.CommandLine.FileTree
import ObjectAccess.CommandLine.Run
import Std.Time.DateTime.Timestamp

/-!
# The program

Collects what a run depends on from the system, runs it, and prints what it comes to.
-/

namespace ObjectAccess.CommandLine

set_option autoImplicit false

open ObjectAccess.Time

/-- The number of a failure of the system, if it is one that a file can have. -/
def failureNumber? : IO.Error → Option UInt32
  | .noFileOrDirectory _ number _ => some number
  | .permissionDenied _ number _ => some number
  | .inappropriateType _ number _ => some number
  | .invalidArgument _ number _ => some number
  | _ => none

/-- The text of a failure of the system. -/
def systemFailure (e : IO.Error) : String :=
  match (failureNumber? e).bind fun number => FileError.ofNumber? number.toNat with
  | some known => known.message
  | none => toString e

/-- The text of octets that were read. -/
def textOf (octets : ByteArray) : Except String String :=
  match String.fromUTF8? octets with
  | some text => .ok text
  | none => .error "stream did not contain valid UTF-8"

/-- All that follows in a stream. -/
partial def readAll (stream : IO.FS.Stream) (start : ByteArray) : IO ByteArray := do
  let more ← stream.read 65536
  if more.isEmpty then return start else readAll stream (start ++ more)

/-- The content of a source. -/
def readSource (source : Source) : IO (Except String String) :=
  try
    match source with
    | .standardInput => return textOf (← readAll (← IO.getStdin) ByteArray.empty)
    | .file path => return textOf (← IO.FS.readBinFile path)
  catch e => return .error (systemFailure e)

/-- The clock reading. -/
def readClock : IO Instant := do
  let nanos := (← Std.Time.Timestamp.now).toNanosecondsSinceUnixEpoch.val
  let perSecond : Int := nanosPerSecond
  return (Instant.ofUnix? (nanos / perSecond) (nanos % perSecond).toNat).getD .epoch

/-- The variables that are set, of those that count. -/
def readVariables : IO (List (String × String)) :=
  (logVariable :: Config.variableNames).filterMapM fun name => do
    return (← IO.getEnv name).map fun value => (name, value)

/-- Prints an outcome. -/
def Outcome.print (o : Outcome) : IO Unit := do
  (← IO.getStdout).putStr o.output
  match o with
  | .printed _ => return ()
  | .failed report => IO.eprintln report.text
  | .misused =>
    IO.eprint "error: the arguments cannot be used\n\n"
    IO.eprint (helpText (fun _ => none) .everything)
  | .aborted => IO.eprintln "the log filter cannot be read"

end ObjectAccess.CommandLine

open ObjectAccess.CommandLine in
/-- Runs the program. -/
def main (arguments : List String) : IO UInt32 := do
  let settings ← readVariables
  let lookup := fun name => settings.lookup name
  let content ← match (Request.ofArguments? lookup arguments).bind (·.source?) with
    | some source => readSource source
    | none => pure (.ok "")
  let outcome := run { lookup := lookup, now := ← readClock, read := fun _ => content } arguments
  outcome.print
  return outcome.exitStatus.toUInt32
