import ScreenNavigation.Generation.Run
import ScreenNavigation.Terminal.Palette

/-!
The lines that report on a generation.
-/
namespace ScreenNavigation.Session

open Generation Terminal

/-- A message behind the time. -/
def stampedLine (p : Palette) (time message : String) : String :=
  p.paint .timestamp ("[" ++ time ++ "]") ++ " " ++ message

private def statisticLine (p : Palette) (entry : String × String) : String :=
  "            " ++ p.paint .label entry.1 ++ " " ++ p.paint .value entry.2

private def counted (label : String) (n : Nat) : String × String := (label, toString n)

/-- A count that is only worth a line if it is positive. -/
private def ifAny (n : Nat) (entry : String × String) : List (String × String) :=
  if 0 < n then [entry] else []

/-- The statistics as labels and values; a line without a label goes on with the line before. -/
def statisticEntries (o : Output) (verbose : Bool) : List (String × String) :=
  let t := o.statistics
  [counted "Screens discovered:" t.screens] ++
    ifAny t.abstractScreens ("", toString t.abstractScreens ++ " abstract, not emitted") ++
    [counted "Builders generated:" t.builders,
      counted "Fields processed:" t.fields,
      ("", toString t.required ++ " required, " ++ toString t.optional ++ " optional")] ++
    ifAny t.privateFields ("", toString t.privateFields ++ " behind accessors") ++
    (if verbose then
      [counted "Members generated:" t.members, counted "Entries ignored:" t.ignored]
    else []) ++
    ifAny o.warnings.length (counted "Warnings:" o.warnings.length)

def statisticLines (p : Palette) (o : Output) (verbose : Bool) : List String :=
  (statisticEntries o verbose).map (statisticLine p)

/-- A line on the error stream. -/
def warningLine (p : Palette) (label message : String) : String :=
  p.paint .accent label ++ " " ++ p.paint .primary message

/-- The warnings to show: renamed modules are of interest only to those who want all details. -/
def warningLines (p : Palette) (o : Output) (verbose : Bool) : List String :=
  (o.warnings.filter fun w => w.isSkipped || verbose).map fun w =>
    warningLine p (if w.isSkipped then "Skipped:" else "Warning:") w.message

end ScreenNavigation.Session
