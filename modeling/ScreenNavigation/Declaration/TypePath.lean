import ScreenNavigation.Source.Parsing
import ScreenNavigation.Text.Quoted

/-!
Type paths: texts that read as one path. A path keeps its text, and two paths are equal when their
texts are.
-/
namespace ScreenNavigation.Declaration

open Source

/-- The text has no blanks at its ends. -/
structure TypePath where
  text : String
  path : Path
  trimmed : Text.trimBlanks text.toList = text.toList

namespace TypePath

instance : BEq TypePath := ⟨fun p q => p.text == q.text⟩

/-- A path with its text, of which the blanks at the ends are dropped. -/
def of (text : String) (path : Path) : TypePath :=
  ⟨String.ofList (Text.trimBlanks text.toList), path, by
    rw [String.toList_ofList, Text.trimBlanks_trimBlanks]⟩

/-- Reads a text as a path, by a reader for the arguments of its segments. -/
def parseBy (angles : Nat → Parser Arguments) (raw : String) : Except SyntaxFault TypePath := do
  return .of raw (← Path.parseBy angles raw)

def parse (raw : String) : Except SyntaxFault TypePath := parseBy Parser.angleArguments raw

theorem parseBy_ok {angles : Nat → Parser Arguments} {raw : String} {p : TypePath}
    (h : parseBy angles raw = .ok p) :
    Path.parseBy angles raw = .ok p.path ∧ p.text = String.ofList (Text.trimBlanks raw.toList) := by
  rw [parseBy] at h
  cases parsed : Path.parseBy angles raw with
  | error f =>
    rw [parsed] at h
    cases h
  | ok path =>
    rw [parsed] at h
    cases h
    exact ⟨rfl, rfl⟩

/-- The form shown for inspection. -/
def inspect (p : TypePath) : String := "TypePath(" ++ Text.quoted p.text ++ ")"

end TypePath

end ScreenNavigation.Declaration
