import ScreenNavigation.Builder.Emission
import ScreenNavigation.Files.Fault
import ScreenNavigation.Manifest.Reading

/-!
What a run needs from outside: a clock, two streams of lines and files. A run is the same program
over all surroundings, be they the real ones or recorded ones.
-/
namespace ScreenNavigation.Session

structure Surroundings (m : Type → Type) where
  /-- The time of day as `hours:minutes:seconds`. -/
  time : m String
  print : String → m Unit
  warn : String → m Unit
  readFile : String → m (Except Files.OpenFault String)
  makeDirectories : String → m (Option Files.Fault)
  writeFile : String → String → m (Option Files.Fault)

/-- Why a run fails. -/
inductive RunFault where
  | unopened (path : String) (f : Files.OpenFault)
  | unread (f : Json.Fault)
  | badSupport (raw : String) (f : Source.SyntaxFault)
  | emission (f : Builder.EmissionFault)
  | noDirectory (path : String) (f : Files.Fault)
  | unwritten (failed total : Nat)

namespace RunFault

def message : RunFault → String
  | .unopened path _ => "Failed to open manifest " ++ path
  | .unread f => Manifest.faultMessage f
  | .badSupport raw f => "Invalid --support-crate path '" ++ raw ++ "': " ++ f.message
  | .emission f => f.message
  | .noDirectory path _ => "Failed to create " ++ path
  | .unwritten failed total =>
    "Failed to write " ++ toString failed ++ " of " ++ toString total ++ " generated files"

/-- What led to the fault, the nearest cause first. -/
def causes : RunFault → List String
  | .unopened path (.unopened f) =>
    let inner := f.message ++ ": IO error"
    [path ++ ": unable to open file: " ++ inner, inner, f.message]
  | .unopened _ (.unmapped f) => [f.message ++ ": mmap failed", f.message]
  | .noDirectory _ f => [f.message]
  | _ => []

private def numbered : Nat → List String → String
  | _, [] => ""
  | i, cause :: rest => "\n    " ++ toString i ++ ": " ++ cause ++ numbered (i + 1) rest

/-- The message with its causes, numbered if there are several. -/
def report (f : RunFault) : String :=
  f.message ++
    match f.causes with
    | [] => ""
    | [cause] => "\n\nCaused by:\n    " ++ cause
    | causes => "\n\nCaused by:" ++ numbered 0 causes

end RunFault

end ScreenNavigation.Session
