import SeriesQuery.CommandLine.Run
import Std.Time.DateTime.Timestamp

/-! # The program

The command line over the real file system, environment and clock.
-/

namespace SeriesQuery.Program

/-- The number that the operating system gave an error; some calls give it with a minus. -/
def errorNumber : IO.Error → Nat
  | .alreadyExists _ n _ | .otherError n _ | .resourceBusy n _ | .resourceVanished n _
  | .unsupportedOperation n _ | .hardwareFault n _ | .unsatisfiedConstraints n _ | .illegalOperation n _
  | .protocolError n _ | .timeExpired n _ | .interrupted _ n _ | .noFileOrDirectory _ n _
  | .invalidArgument _ n _ | .permissionDenied _ n _ | .resourceExhausted _ n _
  | .inappropriateType _ n _ | .noSuchThing _ n _ => n.toInt32.toInt.natAbs
  | .unexpectedEof | .userError _ => 0

/-- Runs an action, with its error as a fault. -/
def attempt {α : Type} (action : IO α) : IO (Except DeviceFault α) := do
  match ← action.toBaseIO with
  | .ok a => return .ok a
  | .error e => return .error (.ofNumber (errorNumber e))

def host : Host IO where
  file path := do
    let contents ← attempt (IO.FS.readBinFile path)
    return .ofContents (contents.map ByteArray.toList)
  makeDirectories path := attempt (if path.isEmpty then pure () else IO.FS.createDirAll path)
  write path bytes := attempt (IO.FS.writeBinFile path ⟨bytes.toArray⟩)
  openLog path := attempt (do let _ ← IO.FS.Handle.mk path .append)
  now := do
    let now ← Std.Time.Timestamp.now
    return .ofInt now.toMillisecondsSinceUnixEpoch.val

def environment : IO Environment := do
  let pairs ← Environment.names.filterMapM fun name => do
    return (← IO.getEnv name).map fun value => (name, value)
  return ⟨.ofList pairs, none⟩

end SeriesQuery.Program

open SeriesQuery in
def main (words : List String) : IO UInt32 := do
  let outcome ← CommandLine.run Program.host (← Program.environment) words
  (← IO.getStdout).putStr outcome.output
  (← IO.getStderr).putStr outcome.report
  return outcome.exit
