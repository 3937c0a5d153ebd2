import ScreenNavigation.Source.Expression

/-!
Files of generated code: imports, modules, structures, and blocks of constants and functions.
-/
namespace ScreenNavigation.Source

inductive Visibility where
  | everywhere
  | crate
  deriving DecidableEq, Repr

/-- How a function takes the value it is called on. -/
inductive Receiver where
  | borrowed
  | owned
  deriving DecidableEq, Repr

structure Function where
  documentation : List String
  name : String
  receiver : Option Receiver
  parameters : List (String × Ty)
  output : Option Ty
  body : List Statement

inductive Associated where
  /-- A constant that holds a text. -/
  | key (name text : String)
  | function (f : Function)

inductive Item where
  /-- Several names of one module. -/
  | imports (source : Path) (names : List String)
  /-- One name of a module, visible under this one. -/
  | reexport (source name : String)
  | module (name : String)
  | structure (documentation name : String) (fields : List (String × Ty))
  | implementation (name : String) (members : List Associated)

/-- All items have one visibility. -/
structure File where
  allowedLints : List String
  visibility : Visibility
  items : List Item

end ScreenNavigation.Source
