import ScreenNavigation.CommandLine.Arguments
import ScreenNavigation.Session.Run

/-!
The program: it reads its arguments and runs in the surroundings of the process.
-/
namespace ScreenNavigation

open Session (Surroundings)

/-- The number and the text of an error of the system. -/
private def faultOf : IO.Error → Files.Fault
  | .noFileOrDirectory _ _ _ => .notFound
  | .alreadyExists _ _ _ => .alreadyExists
  | .otherError code text
  | .resourceBusy code text
  | .resourceVanished code text
  | .unsupportedOperation code text
  | .hardwareFault code text
  | .unsatisfiedConstraints code text
  | .illegalOperation code text
  | .protocolError code text
  | .timeExpired code text
  | .interrupted _ code text
  | .invalidArgument _ code text
  | .permissionDenied _ code text
  | .resourceExhausted _ code text
  | .inappropriateType _ code text
  | .noSuchThing _ code text => ⟨code.toNat, text⟩
  | .unexpectedEof => ⟨0, "Unexpected end of file"⟩
  | .userError text => ⟨0, text⟩

private def fault? (action : IO Unit) : IO (Option Files.Fault) := do
  try
    action
    return none
  catch e => return some (faultOf e)

private def openFault (f : Files.Fault) : Files.OpenFault :=
  if f.code = Files.Fault.isDirectory.code then .unmapped .noSuchDevice else .unopened f

private def twoDigits (n : Nat) : String := if n < 10 then "0" ++ toString n else toString n

/-- The time of day in UTC, read off a file made now. -/
private def timeOfDay : IO String := do
  let (_, path) ← IO.FS.createTempFile
  let modified := (← path.metadata).modified
  IO.FS.removeFile path
  let seconds := modified.sec.toNat % 86400
  return twoDigits (seconds / 3600) ++ ":" ++ twoDigits (seconds / 60 % 60) ++ ":" ++
    twoDigits (seconds % 60)

private def processSurroundings : Surroundings IO where
  time := timeOfDay
  print := IO.println
  warn := IO.eprintln
  readFile path := do
    try return .ok (← IO.FS.readFile path)
    catch e => return .error (openFault (faultOf e))
  makeDirectories path := fault? (IO.FS.createDirAll path)
  writeFile path text := fault? (IO.FS.writeFile path text)

private def terminalWidth : IO Nat := do
  return ((← IO.getEnv "COLUMNS").bind String.toNat?).getD 80

def runProgram (arguments : List String) : IO UInt32 := do
  match CommandLine.parse arguments with
  | .error refusal =>
    let stream ← if refusal.exitCode = 0 then IO.getStdout else IO.getStderr
    stream.putStr refusal.message
    return refusal.exitCode.toUInt32
  | .ok invocation =>
    let toTerminal ← (← IO.getStdout).isTty
    let palette : Terminal.Palette :=
      ⟨invocation.color.isEnabled toTerminal, invocation.theme.theme (← IO.getEnv "COLORFGBG")⟩
    let width ← terminalWidth
    match ← (Session.run processSurroundings palette width invocation.action).run with
    | .ok () => return 0
    | .error f =>
      IO.eprintln ("Error: " ++ f.report)
      return 1

end ScreenNavigation

def main (arguments : List String) : IO UInt32 := ScreenNavigation.runProgram arguments
