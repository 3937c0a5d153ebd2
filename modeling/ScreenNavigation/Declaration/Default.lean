import ScreenNavigation.Declaration.FieldType
import ScreenNavigation.Json.Value
import ScreenNavigation.Source.Expression

/-!
Default values of fields. A marker in the manifest is any JSON value; its meaning depends on the
type of the field, and so does the expression that spells it in generated code.
-/
namespace ScreenNavigation.Declaration

open Decimal Source

inductive Default where
  | bool (b : Bool)
  | whole (n : Json.Whole)
  | real (x : Double)
  | char (c : Char)
  | text (s : String)
  | null
  /-- A marker without a spelling, as JSON text. -/
  | unsupported (json : String)
  deriving DecidableEq, Repr

namespace Default

private def zeroWhole : Json.Whole := ⟨0, by decide, by decide⟩

/-- The natural zero of a type. -/
def zero (t : FieldType) : Default :=
  match t.category with
  | .primitiveBool => bool false
  | .primitiveNumeric =>
    match t.primitive? with
    | some .char => char '\x00'
    | some .f32 => real Double.zero
    | some .f64 => real Double.zero
    | _ => whole zeroWhole
  | _ => null

private def ofNumber (n : Json.Number) (isFloat : Bool) : Default :=
  match n with
  | .real x => real x
  | .whole w =>
    if isFloat then
      match n.toDouble with
      | .finite x => real x
      | _ => unsupported n.write
    else whole w

/-- What a marker means for a field of a type. -/
def ofMarker (marker : Json.Value) (t : FieldType) : Default :=
  match marker with
  | .null => zero t
  | .bool b => bool b
  | .number n => ofNumber n (t.primitive?.any Primitive.isFloat)
  | .string s =>
    match t.primitive?, s.toList with
    | some .char, [c] => char c
    | _, _ => text s
  | .array _ => unsupported marker.write
  | .object _ => unsupported marker.write

theorem ofMarker_whole {n : Json.Whole} {t : FieldType}
    (whole : t.primitive?.any Primitive.isFloat = false) :
    ofMarker (.number (.whole n)) t = .whole n := by
  rw [ofMarker, ofNumber, whole]
  rfl

/-- Where the type is one of real numbers, a whole number is the nearest of them. -/
theorem ofMarker_rounded {n : Json.Whole} {t : FieldType} {x : Double}
    (real : t.primitive?.any Primitive.isFloat = true)
    (rounded : (Json.Number.whole n).toDouble = .finite x) :
    ofMarker (.number (.whole n)) t = .real x := by
  rw [ofMarker, ofNumber, real, rounded]
  rfl

/-- Whether the value is the natural zero: of a nullable type only the absent value is. -/
def isZero (d : Default) (t : FieldType) : Bool :=
  if t.isNullable then d == null
  else
    match d with
    | bool b => !b
    | whole n => n.value == 0
    | real x => x.isZero
    | char c => c.toNat == 0
    | null => true
    | text _ => false
    | unsupported _ => false

/-- A float in positional notation, with a point. -/
def realText (x : Double) : String :=
  let s := x.abs.write .positional
  if s.toList.contains '.' then s else s ++ ".0"

def signed (negative : Bool) (text : String) : Expression :=
  if negative then .negative (.literal text) else .literal text

/-- The value itself, without the option around it; an absent value has none. -/
def plainExpression (d : Default) (t : FieldType) : Expression :=
  match d with
  | bool b => .word (toString b)
  | whole n => signed (n.value < 0) (toString n.value.natAbs)
  | real x => signed x.negative (realText x)
  | char c => .character c
  | text s =>
    match t.category with
    | .string => .call (.path ["String", "from"]) [.text s]
    | _ => .text s
  | null => .absent
  | unsupported json =>
    .reject ("unsupported default literal " ++ json ++ " for a field of type " ++ t.display)

/-- The expression of the field's storage type. A value that does not fit is spelled all the same,
and a marker without a spelling stops the compilation. -/
def expression (d : Default) (t : FieldType) : Expression :=
  match d with
  | null => if t.isNullable then .absent else (zero t).plainExpression t
  | unsupported _ => d.plainExpression t
  | _ => if t.isNullable then .present (d.plainExpression t) else d.plainExpression t

def display : Default → String
  | bool b => toString b
  | whole n => toString n.value
  | real x => x.write .plain
  | char c => Text.quotedCharacter c
  | text s => Text.quoted s
  | null => "None"
  | unsupported json => json

end Default

end ScreenNavigation.Declaration
