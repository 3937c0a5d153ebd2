import ScreenNavigation.Naming.Identifier
import ScreenNavigation.Source.Token

/-!
Which names can be written as identifiers at all. Keywords are written like other identifiers; only
five words have no raw form.
-/
namespace ScreenNavigation.Naming

open Text

/-- A letter or underscore, then letters, digits and underscores of any script. -/
def hasIdentifierShape : List Char → Bool
  | [] => false
  | c :: rest => isIdentifierStart c && rest.all isIdentifierContinue

/-- A plain or raw identifier. -/
def isLegal (name : String) : Bool :=
  let raw := rawMark.isPrefixOf name.toList
  let body := bare name
  hasIdentifierShape body.toList && !(raw && Source.rawlessWords.contains body)

end ScreenNavigation.Naming
