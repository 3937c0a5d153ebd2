import ScreenNavigation.Layout.Document
import ScreenNavigation.Source.Syntax

/-!
Paths and types as documents. Lists of arguments break as a whole; everything else in a type stays
on one line.
-/
namespace ScreenNavigation.Source

open Layout

/-- Where a path stands: its arguments are left out, plain, or marked by two colons. -/
inductive PathPlace where
  | name
  | type
  | expression
  deriving DecidableEq, Repr

private def word (s : String) : Document := .text s

/-- Words in front of which a macro body has a space even behind a point. -/
private def bodyKeywords : List String :=
  ["as", "async", "await", "box", "break", "const", "continue", "crate", "dyn", "else", "enum",
    "extern", "fn", "for", "if", "impl", "in", "let", "loop", "macro", "match", "mod", "move", "mut",
    "pub", "ref", "return", "static", "struct", "trait", "type", "unsafe", "use", "where", "while",
    "yield"]

/-- What a token of a macro body stands behind. -/
private inductive Behind where
  | start
  | dollar
  | dollarParenthesis
  | dollarSeparator
  | pound
  | poundBang
  | dot
  | colon
  | colons
  | name
  | nameBang
  | brackets
  | other
  deriving DecidableEq

/-- Whether a token of a macro body has a space in front of it, and what the next one follows. -/
private def spacing (b : Behind) (t : Token) : Bool × Behind :=
  match b, t with
  | .dollar, .word _ => (false, .other)
  | .dollar, .group .parenthesis _ => (false, .dollarParenthesis)
  | .dollarParenthesis, .word _ => (false, .dollarSeparator)
  | .dollarParenthesis, .literal _ => (false, .dollarSeparator)
  | .dollarParenthesis, .mark c joint =>
    (false, if joint then .dollarParenthesis else if ['+', '*', '?'].contains c then .other
      else .dollarSeparator)
  | .dollarSeparator, .mark '+' _ => (false, .other)
  | .dollarSeparator, .mark '*' _ => (false, .other)
  | .pound, .mark '!' _ => (false, .poundBang)
  | .pound, .group .bracket _ => (false, .other)
  | .poundBang, .group .bracket _ => (false, .other)
  | .name, .mark '!' false => (false, .nameBang)
  | .colon, .mark ':' _ => (false, .colons)
  | _, .group .brace _ => (true, .other)
  | .name, .group _ _ => (false, .brackets)
  | .nameBang, .group _ _ => (false, .other)
  | _, .group _ _ => (true, .brackets)
  | _, .word w =>
    if bodyKeywords.contains w then (true, .other) else (b != .dot && b != .colons, .name)
  | _, .lifetime _ => (true, .name)
  | _, .literal _ => (b != .dot, .name)
  | _, .mark ',' _ => (false, .other)
  | _, .mark ';' _ => (false, .other)
  | _, .mark '.' _ => (b != .name && b != .brackets, .dot)
  | _, .mark ':' true => (b != .name, .colon)
  | _, .mark '$' _ => (true, .dollar)
  | _, .mark '#' _ => (true, .pound)
  | _, .mark _ _ => (true, .other)

private def isJoint : Token → Bool
  | .mark _ true => true
  | .mark '$' _ => true
  | _ => false

private def isDot : Token → Bool
  | .mark '.' _ => true
  | _ => false

mutual

/-- The body of a macro, with spaces by the kinds of neighbouring tokens. -/
private def bodyLayout (b : Behind) (joint : Bool) : List Token → List Document
  | [] => []
  | t :: rest =>
    let (space, behind) := spacing b t
    (if joint then [] else if space then [.space] else if isDot t then [.empty] else []) ++
      tokenLayout t ++ bodyLayout behind (isJoint t) rest

private def tokenLayout : Token → List Document
  | .word text => [word text]
  | .lifetime text => [word text]
  | .literal text => [word text]
  | .mark c _ => [word c.toString]
  | .group d content =>
    let inner := bodyLayout .start true content
    let padding := if d = .brace && !content.isEmpty then [Document.space] else []
    [word d.opening] ++ padding ++ inner ++ padding ++ [word d.closing]

end

/-- The body of a macro in its delimiters. -/
private def invocationLayout (d : Delimiter) (body : List Token) : List Document :=
  let edge : Break := if d = .brace then .line else .empty
  let opening := if d = .brace then " \x7b" else d.opening
  word opening ::
    (if body.isEmpty then [] else
      [.group Document.step true [.break edge, .group 0 false (bodyLayout .start true body),
        .break (edge.shift (-Document.step))]]) ++
    [word d.closing]

private def attributesLayout (attributes : Attributes) : List Document :=
  attributes.flatMap fun body => word "#[" :: bodyLayout .start true body ++ [word "]", .space]

private def ForLifetime.layout (l : ForLifetime) : List Document :=
  attributesLayout l.attributes ++ word l.name ::
    (match l.outlived with
      | some (first :: more, _) => [word (": " ++ String.intercalate " + " (first :: more))]
      | _ => [])

private def forLayout : Option (List ForLifetime) → List Document
  | none => []
  | some lifetimes =>
    word "for<" :: Document.separated [word ", "] (lifetimes.map ForLifetime.layout) ++ [word "> "]

private def nameLayout (name : Option String) : List Document :=
  (name.map fun n => word (n ++ ": ")).toList

private def Variadic.layout (v : Variadic) : List Document :=
  attributesLayout v.attributes ++ nameLayout v.name ++ [word "..."]

/-- Points behind the inputs of a function take no comma, not even in front of a line end. -/
private def callLayout (inputs : List (List Document)) : Option Variadic → Document
  | none => .commaList inputs
  | some v => .group Document.step true
      (Document.outdentLast (.empty :: Document.commaParts .empty (inputs ++ [v.layout])))

private def abiLayout : Option (Option String) → List Document
  | none => []
  | some none => [word "extern "]
  | some (some name) => [word "extern ", word name, word " "]

/-- Lifetimes stand in front of the other arguments. -/
private def lifetimesFirst (items : List (Bool × List Document)) : List (List Document) :=
  ((items.filter (·.1)) ++ items.filter (!·.1)).map (·.2)

private def inAngles (place : PathPlace) (items : List (Bool × List Document)) : List Document :=
  if items.isEmpty || place = .name then [] else
    (if place = .expression then [word "::"] else []) ++
      [word "<", .commaList (lifetimesFirst items), word ">"]

private def pathParts (leading : Bool) (segments : List (List Document)) : List Document :=
  (if leading then [word "::"] else []) ++ Document.separated [word "::"] segments

mutual

def Path.layout (place : PathPlace) : Path → List Document
  | .mk leading segments => pathParts leading (segmentsLayout place segments)

def segmentsLayout (place : PathPlace) : List Segment → List (List Document)
  | [] => []
  | s :: rest => s.layout place :: segmentsLayout place rest

def Segment.layout (place : PathPlace) : Segment → List Document
  | .mk name arguments => word name :: arguments.layout place

def Arguments.layout (place : PathPlace) : Arguments → List Document
  | .none => []
  | .angle _ items _ => inAngles place (argumentsLayout items)
  | .call inputs _ output =>
    let parts := typesLayout inputs
    [.group Document.step true
      (word "(" ::
        Document.outdentLast (.empty :: Document.commaParts Document.trailingComma parts) ++
        word ")" ::
        (match output with
          | none => []
          | some t => word " -> " :: t.layout))]

def argumentsLayout : List Argument → List (Bool × List Document)
  | [] => []
  | .lifetime name :: rest => (true, [word name]) :: argumentsLayout rest
  | .type t :: rest => (false, t.layout) :: argumentsLayout rest
  | .const e :: rest => (false, e.layout) :: argumentsLayout rest
  | .equalsType name arguments t :: rest =>
    (false, word name :: arguments.layout .type ++ word " = " :: t.layout) :: argumentsLayout rest
  | .equalsConst name arguments e :: rest =>
    (false, word name :: arguments.layout .type ++ word " = " :: e.layout) :: argumentsLayout rest
  | .bounded name arguments bounds _ :: rest =>
    let parts := Document.separated [.space, word "+ "] (boundsLayout bounds)
    (false, word name :: arguments.layout .type ++
      [.group Document.step false (if parts.isEmpty then [] else word ": " :: parts)]) ::
      argumentsLayout rest

def typesLayout : List Ty → List (List Document)
  | [] => []
  | t :: rest => t.layout :: typesLayout rest

def inputsLayout : List FunctionInput → List (List Document)
  | [] => []
  | input :: rest => input.layout :: inputsLayout rest

def FunctionInput.layout : FunctionInput → List Document
  | .mk attributes name t => attributesLayout attributes ++ nameLayout name ++ t.layout

def Ty.layout : Ty → List Document
  | .path p => p.layout .type
  | .qualified self trait segments =>
    word "<" :: self.layout ++
      (match trait with
        | none => []
        | some p => word " as " :: p.layout .type) ++
      word ">" :: word "::" :: Document.separated [word "::"] (segmentsLayout .type segments)
  | .reference lifetime mutable t =>
    word "&" :: (lifetime.map fun name => word (name ++ " ")).toList ++
      (if mutable then [word "mut "] else []) ++ t.layout
  | .pointer mutable t => word "*" :: word (if mutable then "mut " else "const ") :: t.layout
  | .slice t => word "[" :: t.layout ++ [word "]"]
  | .array t length => word "[" :: t.layout ++ word "; " :: length.layout ++ [word "]"]
  | .tuple items _ =>
    let content := match typesLayout items with
      | [item] => .empty :: item ++ [word ",", .empty]
      | parts => .empty :: Document.commaParts Document.trailingComma parts
    [word "(", .group Document.step true (Document.outdentLast content), word ")"]
  | .paren t => word "(" :: t.layout ++ [word ")"]
  | .function lifetimes isUnsafe abi inputs _ variadic output =>
    forLayout lifetimes ++ (if isUnsafe then [word "unsafe "] else []) ++ abiLayout abi ++
      word "fn(" :: callLayout (inputsLayout inputs) variadic :: word ")" ::
      (match output with
        | none => []
        | some t => word " -> " :: t.layout)
  | .never => [word "!"]
  | .inferred => [word "_"]
  | .object _ bounds _ => word "dyn " :: Document.separated [word " + "] (boundsLayout bounds)
  | .implementing bounds _ => word "impl " :: Document.separated [word " + "] (boundsLayout bounds)
  | .invocation p delimiter body => p.layout .name ++ word "!" :: invocationLayout delimiter body

def boundsLayout : List Bound → List (List Document)
  | [] => []
  | b :: rest => b.layout :: boundsLayout rest

def Bound.layout : Bound → List Document
  | .lifetime name => [word name]
  | .trait parenthesized maybe lifetimes p =>
    let body := (if maybe then [word "?"] else []) ++ forLayout lifetimes ++ p.layout .type
    if parenthesized then word "(" :: body ++ [word ")"] else body
  | .captured names _ =>
    word "use<" :: Document.separated [word ", "] (names.map tokenLayout) ++ [word ">"]

def Constant.layout : Constant → List Document
  | .literal text => [word text]
  | .path p => p.layout .expression
  | .unary op e => word op.text :: e.layout
  | .binary left op right =>
    [.group Document.step false
      (.group (-Document.step) false left.layout :: .space :: word (op.text ++ " ") :: right.layout)]
  | .cast e t =>
    [.group Document.step false
      (.group (-Document.step) false e.layout :: .space :: word "as " :: t.layout)]
  | .paren e => word "(" :: e.layout ++ [word ")"]
  | .block none => [word "\x7b\x7d"]
  | .block (some e) =>
    [.group Document.step true
      [word "\x7b", .space, .group 0 false e.layout,
        .break (Break.space.shift (-Document.step)), word "\x7d"]]
  | .verbatim content => bodyLayout .start true content

end

end ScreenNavigation.Source
