import ScreenNavigation.Manifest.Supertypes
import ScreenNavigation.Text.Characters

/-!
Finding the screens of a manifest. Entries that describe no usable screen or field are only
counted.
-/
namespace ScreenNavigation.Manifest

open Declaration

/-- Decides whether a type is the base type or one of its subtypes. -/
abbrev SubtypeCheck := TypePath → TypePath → Bool

structure Discovery where
  screens : List Screen
  ignored : Nat

namespace Discovery

def emittable (d : Discovery) : List Screen := d.screens.filter (!·.isAbstract)

def abstractCount (d : Discovery) : Nat := (d.screens.filter (·.isAbstract)).length

end Discovery

/-- An ASCII identifier, maybe raw, that is not a single underscore. -/
def isFieldName (name : String) : Bool :=
  let body := (Naming.bare name).toList
  name != "_" && body.head?.any (fun c => Text.isWordCharacter c && !Text.isAsciiDigit c) &&
    body.all Text.isWordCharacter

def screenOf (e : ClassEntry) : Screen :=
  ⟨e.identity, e.packageName, e.isAbstract, [], List.nodup_nil⟩

def fieldOf (e : FieldEntry) : Field := .declare e.name e.type e.isPrivate e.marker

/-- The identity that a field entry names as its screen. What reads as no path is trimmed like a path. -/
def FieldEntry.screenName (e : FieldEntry) : String :=
  match TypePath.parse e.enclosing with
  | .ok identity => identity.text
  | .error _ => String.ofList (Text.trimBlanks e.enclosing.toList)

def addClass (check : SubtypeCheck) (base : TypePath) (d : Discovery) (e : ClassEntry) :
    Discovery :=
  if e.element == .type && check e.identity base && !d.screens.any (·.identity == e.identity) then
    { d with screens := d.screens ++ [screenOf e] }
  else { d with ignored := d.ignored + 1 }

/-- Adds a field to the screen with the given identity, and tells whether it was added. -/
def addTo (name : String) (f : Field) : List Screen → List Screen × Bool
  | [] => ([], false)
  | s :: rest =>
    if s.identity.text = name then
      let (s, added) := s.addField f
      (s :: rest, added)
    else
      let (rest, added) := addTo name f rest
      (s :: rest, added)

def addField (d : Discovery) (e : FieldEntry) : Discovery :=
  if e.element == .field && isFieldName e.name then
    let (screens, added) := addTo e.screenName (fieldOf e) d.screens
    ⟨screens, if added then d.ignored else d.ignored + 1⟩
  else { d with ignored := d.ignored + 1 }

/-- The screens of a manifest with their fields: of several entries for one screen, or for one key
of a screen, the first counts. -/
def discover (m : Manifest) (check : SubtypeCheck) : Discovery :=
  m.fields.foldl addField (m.classes.foldl (addClass check m.baseType) ⟨[], 0⟩)

/-- The check that the manifest itself provides. -/
def declaredSubtypes (m : Manifest) : SubtypeCheck := (Supertypes.ofClasses m.classes).isSubtype

end ScreenNavigation.Manifest
