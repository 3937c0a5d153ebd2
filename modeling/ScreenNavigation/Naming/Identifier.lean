import ScreenNavigation.Naming.Words

/-!
Identifiers of generated code: field names with their escapes, constants, modules and setters. A
keyword becomes a raw identifier, or gets an underscore where no raw form exists.
-/
namespace ScreenNavigation.Naming

open Text

/-- Words that are written raw, with `r#` in front, when a field is named so. -/
def keywords : List String :=
  ["as", "break", "const", "continue", "crate", "else", "enum", "extern", "false", "fn", "for", "if",
    "impl", "in", "let", "loop", "match", "mod", "move", "mut", "pub", "ref", "return", "static",
    "struct", "super", "trait", "true", "type", "unsafe", "use", "where", "while", "async", "await",
    "dyn", "try", "abstract", "become", "box", "do", "final", "macro", "override", "priv", "typeof",
    "unsized", "virtual", "yield", "gen"]

/-- Words without a raw form. -/
def unescapable : List String := ["self", "Self", "super", "crate", "_"]

def rawMark : List Char := ['r', '#']

/-- A name without its raw mark. -/
def bare (name : String) : String :=
  if rawMark.isPrefixOf name.toList then String.ofList (name.toList.drop 2) else name

/-- A declared field name as an identifier; its case is kept. -/
def escaped (name : String) : String :=
  let b := bare name
  if unescapable.contains b then b ++ "_"
  else if keywords.contains b then "r#" ++ b
  else b

def guardDigit (cs : List Char) : List Char :=
  if cs.head?.any isAsciiDigit then '_' :: cs else cs

/-- The constant that holds a field's key: `userId` and `user_id` both give `USER_ID`. -/
def constantName (s : String) : String :=
  match nameParts s with
  | [] => "UNNAMED"
  | parts => String.ofList (guardDigit ((joined parts).map Char.toUpper))

/-- The module of a type: `DetailBuilder` gives `detail_builder`. -/
def moduleName (s : String) : String :=
  match nameParts s with
  | [] => "unnamed"
  | parts =>
    let name := (joined parts).map Char.toLower
    let word := String.ofList name
    let free := if keywords.contains word || unescapable.contains word then name ++ ['_'] else name
    String.ofList (guardDigit free)

def setterName (name : String) : String := "set_" ++ bare name

/-- What stands in front of the first pair of colons. -/
def beforeColons : List Char → List Char
  | [] => []
  | ':' :: ':' :: _ => []
  | c :: rest => c :: beforeColons rest

/-- The last segment of a path text in front of its first angle bracket. -/
def simpleName (path : String) : String :=
  let plain := path.toList.takeWhile (· != '<')
  String.ofList (trimBlanks (beforeColons plain.reverse).reverse)

/-- The base, or the base with the least number from 2 on that makes it free. -/
def unique (base : String) (used : List String) : String :=
  if used.contains base then
    (((List.range' 2 (used.length + 1)).map fun i => base ++ toString i).find?
      fun name => !used.contains name).getD base
  else base

/-- Makes bases unique one after the other; each name is in use for those behind it. -/
def uniqueInTurn (used : List String) : List String → List String
  | [] => []
  | base :: rest =>
    let name := unique base used
    name :: uniqueInTurn (name :: used) rest

end ScreenNavigation.Naming
