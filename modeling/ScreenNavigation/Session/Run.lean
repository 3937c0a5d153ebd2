import ScreenNavigation.CommandLine.Invocation
import ScreenNavigation.Session.Listing
import ScreenNavigation.Session.Report
import ScreenNavigation.Session.Surroundings

/-!
Running a command in its surroundings.
-/
namespace ScreenNavigation.Session

open CommandLine Declaration Terminal

variable {m : Type → Type} [Monad m]

private def orFault {α : Type} (f : α → RunFault) : Option α → ExceptT RunFault m Unit
  | none => pure ()
  | some a => throw (f a)

private def ofExcept {α ε : Type} (f : ε → RunFault) : Except ε α → ExceptT RunFault m α
  | .ok a => pure a
  | .error e => throw (f e)

private def loadManifest (w : Surroundings m) (path : String) : ExceptT RunFault m Manifest := do
  let text ← ofExcept (.unopened path) (← w.readFile path)
  ofExcept .unread (Manifest.read text)

/-- Prints the table of the screens that a manifest describes. -/
def list (w : Surroundings m) (width : Nat) (input : String) : ExceptT RunFault m Unit := do
  let manifest ← loadManifest w input
  w.print ((listing (Manifest.discover manifest (Manifest.declaredSubtypes manifest))).render width)

/-- A listing prints one table, unless its manifest cannot be read. -/
theorem run_list [LawfulMonad m] (w : Surroundings m) (width : Nat) (input : String) :
    (list w width input).run = (do
      match ← w.readFile input with
      | .error f => return .error (.unopened input f)
      | .ok text =>
        match Manifest.read text with
        | .error f => return .error (.unread f)
        | .ok manifest =>
          w.print ((listing (Manifest.discover manifest (Manifest.declaredSubtypes manifest))).render width)
          return .ok ()) := by
  simp only [list, loadManifest, ExceptT.run_bind, ExceptT.run_lift, bind_assoc, bind_map_left,
    liftM, monadLift, MonadLift.monadLift]
  refine bind_congr fun opened => ?_
  cases opened with
  | error f => simp [ofExcept]
  | ok text =>
    cases read : Manifest.read text with
    | error f => simp [ofExcept, read]
    | ok manifest => simp [ofExcept, read]

/-- The path of a file in a directory. -/
def join (directory name : String) : String :=
  if directory.endsWith "/" then directory ++ name else directory ++ "/" ++ name

/-- Writes a file and tells whether that succeeded. -/
private def writeFile (w : Surroundings m) (p : Palette) (o : GenerateOptions)
    (info : String → m Unit) (f : Generation.SourceFile) : m Bool := do
  let path := join o.output f.name
  match ← w.writeFile path f.code with
  | none =>
    if o.verbose then info (p.paint .value ("Wrote " ++ path))
    return true
  | some fault =>
    w.warn (warningLine p "Warning:" ("Failed to write " ++ path ++ ": " ++ fault.message))
    return false

private def reportOutput (w : Surroundings m) (p : Palette) (o : GenerateOptions)
    (output : Generation.Output) : m Unit := unless o.quiet do
  (statisticLines p output o.verbose).forM w.print
  let warnings := warningLines p output o.verbose
  unless warnings.isEmpty do w.print ""
  warnings.forM w.warn

/-- Generates the builders for the screens of a manifest. A file that cannot be written does not
keep the others from being written. -/
def generate (w : Surroundings m) (p : Palette) (o : GenerateOptions) :
    ExceptT RunFault m Unit := do
  let support ← ofExcept (.badSupport o.support) (TypePath.parse o.support)
  let info (message : String) : m Unit := do
    unless o.quiet do w.print (stampedLine p (← w.time) message)
  info (p.paint .primary ("Loading symbol manifest from: " ++ o.input))
  let manifest ← loadManifest w o.input
  info (p.paint .primary "Generating screen builders...")
  let discovery := Manifest.discover manifest (Manifest.declaredSubtypes manifest)
  let output ← ofExcept .emission (Generation.run discovery ⟨o.visibility, support, o.input⟩)
  liftM (reportOutput w p o output)
  info (p.paint .primary ("Writing to: " ++ o.output))
  orFault (.noDirectory o.output) (← w.makeDirectories o.output)
  let written : List Bool ← liftM (output.files.mapM (writeFile w p o info))
  let failed := written.count false
  if 0 < failed then throw (.unwritten failed written.length)
  unless o.quiet do
    w.print ""
    info (p.paint .success ("Successfully generated " ++ toString written.length ++ " files"))

def run (w : Surroundings m) (p : Palette) (width : Nat) : Action → ExceptT RunFault m Unit
  | .list input => list w width input
  | .generate options => generate w p options

end ScreenNavigation.Session
