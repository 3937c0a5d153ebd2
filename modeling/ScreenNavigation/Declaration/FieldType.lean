import ScreenNavigation.Declaration.TypePath

/-!
The types a payload field may declare, and the types they become in generated code. Every type
that is not primitive may be absent, so it is stored as an option.
-/
namespace ScreenNavigation.Declaration

open Source

inductive Primitive where
  | bool
  | i8
  | i16
  | i32
  | i64
  | u8
  | u16
  | u32
  | u64
  | f32
  | f64
  | char
  deriving DecidableEq, Repr

namespace Primitive

def all : List Primitive := [bool, i8, i16, i32, i64, u8, u16, u32, u64, f32, f64, char]

def name : Primitive → String
  | bool => "bool"
  | i8 => "i8"
  | i16 => "i16"
  | i32 => "i32"
  | i64 => "i64"
  | u8 => "u8"
  | u16 => "u16"
  | u32 => "u32"
  | u64 => "u64"
  | f32 => "f32"
  | f64 => "f64"
  | char => "char"

def ofName? (s : String) : Option Primitive := all.find? (·.name == s)

def isFloat : Primitive → Bool
  | f32 => true
  | f64 => true
  | _ => false

end Primitive

inductive FieldType where
  | primitive (p : Primitive)
  | boxed (p : Primitive)
  | string
  | serializable (path : TypePath)
  | array (element : FieldType)

/-- What storage, zero value and encoding of a type depend on. -/
inductive Category where
  | primitiveNumeric
  | primitiveBool
  | boxed
  | string
  | serializable
  | array
  deriving DecidableEq, Repr

namespace Category

def name : Category → String
  | primitiveNumeric => "PrimitiveNumeric"
  | primitiveBool => "PrimitiveBool"
  | boxed => "Boxed"
  | string => "String"
  | serializable => "Serializable"
  | array => "Array"

def isNullable : Category → Bool
  | primitiveNumeric => false
  | primitiveBool => false
  | _ => true

end Category

namespace FieldType

def category : FieldType → Category
  | primitive .bool => .primitiveBool
  | primitive _ => .primitiveNumeric
  | boxed _ => .boxed
  | string => .string
  | serializable _ => .serializable
  | array _ => .array

def isNullable (t : FieldType) : Bool := t.category.isNullable

/-- The primitive behind a primitive or boxed type. -/
def primitive? : FieldType → Option Primitive
  | primitive p => some p
  | boxed p => some p
  | _ => none

/-- The type in the manifest's own notation. -/
def display : FieldType → String
  | primitive p => p.name
  | boxed p => "Option<" ++ p.name ++ ">"
  | string => "String"
  | serializable path => path.text
  | array element => "[" ++ element.display ++ "]"

mutual

/-- The type a value has inside a payload. -/
def valueType : FieldType → Ty
  | primitive p => .named p.name
  | boxed p => .named p.name
  | string => .named "String"
  | serializable path => .path path.path
  | array element => .apply "Vec" element.elementType

/-- Elements of an array stay optional only when they are boxed. -/
def elementType : FieldType → Ty
  | boxed p => .apply "Option" (.named p.name)
  | primitive p => .named p.name
  | string => .named "String"
  | serializable path => .path path.path
  | array element => .apply "Vec" element.elementType

end

/-- The type of the field in a screen and in its builder. -/
def storageType (t : FieldType) : Ty :=
  if t.isNullable then .apply "Option" t.valueType else t.valueType

/-- Equality of types; paths are compared as texts. -/
def same : FieldType → FieldType → Bool
  | primitive p, primitive q => p == q
  | boxed p, boxed q => p == q
  | string, string => true
  | serializable p, serializable q => p == q
  | array s, array t => s.same t
  | _, _ => false

end FieldType

end ScreenNavigation.Declaration
