import ScreenNavigation.Declaration.Screen

/-!
The symbol manifest: every element that carries a screen marker and every element that carries a
field marker, in the order in which they were observed.
-/
namespace ScreenNavigation.Manifest

open Declaration

inductive ElementKind where
  | type
  | field
  | enum
  | trait
  | method
  | other
  deriving DecidableEq, Repr

namespace ElementKind

def name : ElementKind → String
  | .type => "Class"
  | .field => "Field"
  | .enum => "Enum"
  | .trait => "Trait"
  | .method => "Method"
  | .other => "Other"

/-- Kinds that the manifest does not know are other elements. -/
def ofName : String → ElementKind
  | "class" => .type
  | "field" => .field
  | "enum" => .enum
  | "trait" => .trait
  | "method" => .method
  | _ => .other

end ElementKind

structure ClassEntry where
  identity : TypePath
  package : Option String
  element : ElementKind
  isAbstract : Bool
  supertypes : List TypePath

/-- What stands in front of the last pair of colons, or none without colons; read from the end. -/
def beforeLastColons : List Char → Option (List Char)
  | [] => none
  | ':' :: ':' :: rest => some rest.reverse
  | _ :: rest => beforeLastColons rest

/-- The package of a screen, by default the part of its identity before the last two colons. -/
def ClassEntry.packageName (e : ClassEntry) : String :=
  match e.package with
  | some p => p
  | none => String.ofList ((beforeLastColons e.identity.text.toList.reverse).getD [])

structure FieldEntry where
  enclosing : String
  element : ElementKind
  name : String
  type : FieldType
  isPrivate : Bool
  marker : Option Json.Value

end Manifest

/-- Everything the host reports. -/
structure Manifest where
  baseType : Declaration.TypePath
  classes : List Manifest.ClassEntry
  fields : List Manifest.FieldEntry

namespace Manifest

open Declaration

/-- The base type of screens, where the manifest names none. -/
def defaultBaseType : TypePath :=
  .of "screen_starter_support::Screen" (.ofNames ["screen_starter_support", "Screen"])

end ScreenNavigation.Manifest
