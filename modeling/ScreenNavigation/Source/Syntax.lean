import ScreenNavigation.Source.Token

/-!
Paths and types of generated code, as trees. A path in a type may carry arguments, and arguments
hold types again.
-/
namespace ScreenNavigation.Source

/-- An operator between two constant expressions, by its spelling. -/
structure Operator where
  text : String
  deriving DecidableEq, Repr

/-- Attributes by the tokens in their brackets. -/
abbrev Attributes := List (List Token)

/-- A lifetime that a `for` introduces. Behind a colon it names the lifetimes that it outlives. -/
structure ForLifetime where
  attributes : Attributes
  name : String
  outlived : Option (List String × Bool)
  deriving Repr

/-- Points in the place of further arguments of a function. -/
structure Variadic where
  attributes : Attributes
  name : Option String
  trailing : Bool
  deriving Repr

mutual

inductive Path where
  | mk (leading : Bool) (segments : List Segment)

inductive Segment where
  | mk (name : String) (arguments : Arguments)

/-- Arguments of a path segment. Turbofish arguments have two colons in front of them. -/
inductive Arguments where
  | none
  | angle (turbofish : Bool) (items : List Argument) (trailing : Bool)
  | call (inputs : List Ty) (trailing : Bool) (output : Option Ty)

inductive Argument where
  | lifetime (name : String)
  | type (t : Ty)
  | const (e : Constant)
  | equalsType (name : String) (arguments : Arguments) (t : Ty)
  | equalsConst (name : String) (arguments : Arguments) (e : Constant)
  | bounded (name : String) (arguments : Arguments) (bounds : List Bound) (trailing : Bool)

inductive Ty where
  | path (p : Path)
  | qualified (self : Ty) (trait : Option Path) (segments : List Segment)
  | reference (lifetime : Option String) (mutable : Bool) (t : Ty)
  | pointer (mutable : Bool) (t : Ty)
  | slice (t : Ty)
  | array (t : Ty) (length : Constant)
  | tuple (items : List Ty) (trailing : Bool)
  | paren (t : Ty)
  | function (lifetimes : Option (List ForLifetime)) (isUnsafe : Bool) (abi : Option (Option String))
      (inputs : List FunctionInput) (trailing : Bool) (variadic : Option Variadic) (output : Option Ty)
  | never
  | inferred
  | object (dyn : Bool) (bounds : List Bound) (trailing : Bool)
  | implementing (bounds : List Bound) (trailing : Bool)
  | invocation (p : Path) (delimiter : Delimiter) (body : List Token)

inductive FunctionInput where
  | mk (attributes : Attributes) (name : Option String) (t : Ty)

inductive Bound where
  | lifetime (name : String)
  | trait (parenthesized maybe : Bool) (lifetimes : Option (List ForLifetime)) (p : Path)
  | captured (names : List Token) (trailing : Bool)

/-- Expressions that may stand for a constant. Those of other kinds are kept as they are written. -/
inductive Constant where
  | literal (text : String)
  | path (p : Path)
  | unary (op : Operator) (e : Constant)
  | binary (left : Constant) (op : Operator) (right : Constant)
  | cast (e : Constant) (t : Ty)
  | paren (e : Constant)
  | block (e : Option Constant)
  | verbatim (content : List Token)

end

namespace Segment

def name : Segment → String
  | .mk n _ => n

def arguments : Segment → Arguments
  | .mk _ a => a

end Segment

namespace Path

def leading : Path → Bool
  | .mk l _ => l

def segments : Path → List Segment
  | .mk _ s => s

/-- Whether no segment has arguments. -/
def isPlain (p : Path) : Bool :=
  p.segments.all fun
    | .mk _ .none => true
    | _ => false

/-- A path of plain names. -/
def ofNames (names : List String) : Path := .mk false (names.map (.mk · .none))

end Path

namespace Ty

/-- A type named by one word. -/
def named (name : String) : Ty := .path (.ofNames [name])

/-- A type constructor applied to one type. -/
def apply (constructor : String) (t : Ty) : Ty :=
  .path (.mk false [.mk constructor (.angle false [.type t] false)])

end Ty

end ScreenNavigation.Source
