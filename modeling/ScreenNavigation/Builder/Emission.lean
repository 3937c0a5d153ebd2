import ScreenNavigation.Builder.Code
import ScreenNavigation.Naming.Legality
import ScreenNavigation.Source.ItemLayout

/-!
Source files of builders and of the module that lists them. A plan is refused when two of its
members would share a name, when a name is no identifier, or when a path does not fit where the code
puts it.
-/
namespace ScreenNavigation.Builder

open Declaration Source

inductive EmissionFault where
  | clashes (builder : String) (names : List String)
  | illegalName (name : String)
  | invalid (f : SyntaxFault)
  deriving DecidableEq, Repr

def EmissionFault.message : EmissionFault → String
  | .clashes builder names =>
    "`" ++ builder ++ "` would define more than one item named " ++ String.intercalate ", " names
  | .illegalName name => "`" ++ name ++ "` is no identifier"
  | .invalid f => f.message

/-- The program's version, shown in headers. -/
def version : String := "0.1.0"

def header (title : String) (s : Settings) : String :=
  "//! AUTO-GENERATED CODE - DO NOT EDIT!\n//!\n//! " ++ title ++ "\n//! Source: " ++ s.source ++
    "\n//! Generated by `screen-starter-gen` v" ++ version ++ "\n\n"

private def importChoices : List String :=
  ["identifier", "`self`", "`super`", "`crate`", "`try`", "`*`", "curly braces"]

/-- An import takes no arguments, and no `Self`. -/
def segmentFault? (name : String) : Arguments → Option SyntaxFault
  | arguments =>
    if isReserved name && !isPathKeyword name then some (.expected importChoices false)
    else match arguments with
      | .none => none
      | .angle true _ _ => some (.expected importChoices false)
      | _ => some (.expectedMark ";")

def importFault? (p : Path) : Option SyntaxFault :=
  p.segments.findSome? fun s => segmentFault? s.name s.arguments

/-- A path that starts with `try` is no type. -/
def typeFault? (p : TypePath) : Option SyntaxFault :=
  match p.path with
  | .mk false (.mk "try" _ :: _) => some (.expected Parser.typeChoices false)
  | _ => none

/-- The path at the bottom of a type. -/
def pathOf? : FieldType → Option TypePath
  | .serializable p => some p
  | .array element => pathOf? element
  | _ => none

def Plan.illegalName? (p : Plan) : Option String :=
  (p.name :: p.storage.map (·.name)).find? (!Naming.isLegal ·)

def Plan.syntaxFault? (p : Plan) (s : Settings) : Option SyntaxFault :=
  importFault? s.support.path <|>
    ((p.storage.filterMap fun b => pathOf? b.type) ++ [p.target]).findSome? typeFault?

/-- The file of a builder. -/
def Plan.emit (p : Plan) (s : Settings) : Except EmissionFault String :=
  if !p.clashes.isEmpty then .error (.clashes p.name p.clashes)
  else match p.illegalName?, p.syntaxFault? s with
    | some name, _ => .error (.illegalName name)
    | none, some f => .error (.invalid f)
    | none, none =>
      .ok (header ("Builder for `" ++ p.target.text ++ "` in `" ++ p.package ++ "`") s ++
        (p.code s).render)

/-- A module of a builder, and the builder's name. -/
structure ModuleEntry where
  module : String
  builder : String
  deriving DecidableEq, Repr

/-- Builders whose name no other builder has; only they are visible without their module. -/
def reexported (entries : List ModuleEntry) : List ModuleEntry :=
  entries.filter fun e => entries.countP (·.builder == e.builder) == 1

def modulesCode (entries : List ModuleEntry) (s : Settings) : File where
  allowedLints := []
  visibility := s.visibility
  items := entries.map (fun e => .module e.module) ++
    (reexported entries).map fun e => .reexport e.module e.builder

def moduleFault? (e : ModuleEntry) : Option SyntaxFault :=
  if isReserved e.module && e.module != "try" then some (.reservedName e.module) else none

def reexportFault? (e : ModuleEntry) : Option SyntaxFault :=
  segmentFault? e.module .none <|> segmentFault? e.builder .none

/-- The file that declares the modules of builders. -/
def emitModules (entries : List ModuleEntry) (s : Settings) : Except EmissionFault String :=
  let shown := reexported entries
  match (entries.map (·.module) ++ shown.map (·.builder)).find? (!Naming.isLegal ·) with
  | some name => .error (.illegalName name)
  | none =>
    match entries.findSome? moduleFault? <|> shown.findSome? reexportFault? with
    | some f => .error (.invalid f)
    | none => .ok (header "Generated screen builders" s ++ (modulesCode entries s).render)

end ScreenNavigation.Builder
