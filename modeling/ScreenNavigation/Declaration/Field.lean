import ScreenNavigation.Declaration.Default
import ScreenNavigation.Naming.Identifier

/-!
Payload fields of a screen. A field is optional exactly when its marker supplies a value other than
the natural zero of its type.
-/
namespace ScreenNavigation.Declaration

/-- The name is an identifier with its escape. -/
structure Field where
  name : String
  type : FieldType
  isPrivate : Bool
  marker : Option Json.Value

namespace Field

/-- A field by its declared name. -/
def declare (name : String) (type : FieldType) (isPrivate : Bool) (marker : Option Json.Value) :
    Field :=
  ⟨Naming.escaped name, type, isPrivate, marker⟩

/-- The key of the field in payloads. -/
def key (f : Field) : String := Naming.bare f.name

def hasMarker (f : Field) : Bool := f.marker.isSome

private def markerDefault? (f : Field) : Option Default := f.marker.map (Default.ofMarker · f.type)

def isOptional (f : Field) : Bool := f.markerDefault?.any (!·.isZero f.type)

def isRequired (f : Field) : Bool := !f.isOptional

/-- The value of the marker, or the zero of the type. -/
def default (f : Field) : Default := f.markerDefault?.getD (.zero f.type)

theorem default_eq_ofMarker {f : Field} {marker : Json.Value} (marked : f.marker = some marker) :
    f.default = .ofMarker marker f.type := by
  rw [default, markerDefault?, marked]
  rfl

theorem isOptional_eq {f : Field} {marker : Json.Value} (marked : f.marker = some marker) :
    f.isOptional = !(Default.ofMarker marker f.type).isZero f.type := by
  rw [isOptional, markerDefault?, marked]
  rfl

theorem isOptional_of_unmarked {f : Field} (unmarked : f.marker = none) : f.isOptional = false := by
  rw [isOptional, markerDefault?, unmarked]
  rfl

def constant (f : Field) : String := Naming.constantName f.key

def setter (f : Field) : String := Naming.setterName f.name

def getter (f : Field) : String := f.name

end Field

end ScreenNavigation.Declaration
