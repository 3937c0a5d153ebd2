import ScreenNavigation.Source.Expression
import ScreenNavigation.Source.TypeLayout

/-!
Expressions and statements as documents. A chain of calls breaks in front of its points, and the
body of a closure gets braces on lines of its own.
-/
namespace ScreenNavigation.Source

open Layout

private def piece (s : String) : Document := .text s

/-- A group in which all breaks end lines together. -/
private def together (offset : Int) (content : List Document) : Document := .group offset true content

private def loose (content : List Document) : Document := .group 0 false content

namespace Expression

/-- A single argument of this kind keeps its place behind the parenthesis. -/
private def isBlock : Expression → Bool
  | .closure _ _ => true
  | .record _ => true
  | .unit => true
  | _ => false

/-- A body that a closure shows without braces. -/
private def isBareBody : Expression → Bool
  | .call _ _ => true
  | e => e.isBlock

/-- A name so short that what follows it stays on its line. -/
private def isShortName : Expression → Bool
  | .name (.mk false [.mk text .none]) => (text.utf8ByteSize : Int) ≤ Document.step
  | _ => false

/-- Whether a brace behind the expression goes to a line of its own when the expression breaks. -/
def endsLoosely : Expression → Bool
  | .field _ _ => true
  | .method _ _ _ _ => true
  | .assign _ _ => true
  | .call f _ => f.endsLoosely
  | .reference e => e.endsLoosely
  | .negative e => e.endsLoosely
  | .not e => e.endsLoosely
  | .attempt e => e.endsLoosely
  | _ => false

/-- Where an expression stands: inside a chain, and whether it begins a line. -/
private structure Position where
  chained : Bool
  lineStart : Bool

private def Position.inside : Position := ⟨false, false⟩

/-- Inside a chain, what is no part of the chain keeps the indentation of the chain's start. -/
private def Position.alone (p : Position) (content : List Document) : List Document :=
  if p.chained then [together (-Document.step) content] else content

private def Position.chain (p : Position) (content : List Document) : List Document :=
  if p.chained then content else [together Document.step content]

private def Position.point (p : Position) (receiver : Expression) : List Document :=
  if p.lineStart && receiver.isShortName then [] else [Document.empty]

private def argumentList (arguments : List Expression) (parts : List (List Document)) :
    List Document :=
  match arguments, parts with
  | [e], [part] => if e.isBlock then part else [.commaList parts]
  | _, _ => [.commaList parts]

/-- The parameters of a closure up to the second bar. -/
private def closureHead (parameters : List String) : Document :=
  let names := Document.separated [piece ",", Document.space] (parameters.map fun p => [piece p])
  together Document.step
    (piece "|" :: (if names.isEmpty then [] else Document.empty :: names) ++
      [piece "|", Document.break (Break.space.shift (-Document.step))])

private def opening : Break := { Break.empty with before := some '\x7b' }

private def closing : Break := { Break.empty.shift (-Document.step) with after := "\x7d" }

/-- The widest record that stands on one line. -/
private def recordWidth : Nat := 34

private def recordBreak : Break := { Break.space with before := some ',' }

mutual

private def layoutAt (p : Position) : Expression → List Document
  | .name path => p.alone (path.layout .expression)
  | .literal text => p.alone [piece text]
  | .unit => p.alone [piece "()"]
  | .negative e => p.alone (piece "-" :: layoutAt .inside e)
  | .not e => p.alone (piece "!" :: layoutAt .inside e)
  | .reference e => p.alone (piece "&" :: layoutAt .inside e)
  | .field base member =>
    p.chain (layoutAt { p with chained := true } base ++ p.point base ++
      [piece ("." ++ member)])
  | .method receiver member types arguments =>
    let short := !p.chained && p.lineStart && receiver.isShortName
    let parts := argumentsAt arguments
    p.chain (layoutAt { p with chained := true } receiver ++ p.point receiver ++
      [piece ("." ++ member)] ++
      (if types.isEmpty then [] else [piece "::<", .commaList (typesLayout types), piece ">"]) ++
      [together (if short then -Document.step else 0)
        (piece "(" :: argumentList arguments parts ++ [piece ")"])])
  | .call f arguments =>
    layoutAt { p with lineStart := !p.chained && p.lineStart } f ++
      piece "(" :: argumentList arguments (argumentsAt arguments) ++ [piece ")"]
  | .attempt e => layoutAt p e ++ [piece "?"]
  | .closure parameters body =>
    let inner := layoutAt .inside body
    p.alone (closureHead parameters :: .fixed ::
      (if body.isBareBody then inner else
        [together Document.step (.break opening :: inner ++ [.break closing])]))
  | .reject message =>
    p.alone [piece "compile_error!(",
      together Document.step [.empty, loose [piece (Text.stringLiteral message)],
        .break (Break.empty.shift (-Document.step))],
      piece ")"]
  | .record fields =>
    let content := Document.commaParts recordBreak (fieldsAt fields)
    let start : Document := .break { Break.space with needsContent := true }
    p.alone [together Document.step (Document.limited recordWidth
      (.group (-Document.step) false [piece "Self"] :: piece " \x7b" ::
        Document.outdentLast (start :: content))), piece "\x7d"]
  | .assign place value =>
    p.alone [loose (layoutAt .inside place ++ [piece " = ", .fixed] ++ layoutAt .inside value)]

private def argumentsAt : List Expression → List (List Document)
  | [] => []
  | e :: rest => layoutAt .inside e :: argumentsAt rest

private def fieldsAt : List (String × Option Expression) → List (List Document)
  | [] => []
  | (key, none) :: rest => [piece key] :: fieldsAt rest
  | (key, some e) :: rest => [piece (key ++ ": "), loose (layoutAt .inside e)] :: fieldsAt rest

end

def layout (e : Expression) : List Document := layoutAt .inside e

/-- An expression at the start of a line. -/
def lineLayout (e : Expression) : List Document := layoutAt ⟨false, true⟩ e

end Expression

private def Condition.layout : Condition → List Document
  | .holds e => e.layout ++ [if e.endsLoosely then .space else piece " "]
  | .present binder e =>
    piece "let Some(" :: .commaList [[piece binder]] :: piece ")" :: piece " = " :: .fixed ::
      e.layout ++ [if e.endsLoosely then .space else piece " "]

mutual

def Statement.layout : Statement → List Document
  | .bind mutable name value =>
    [loose (piece ("let " ++ (if mutable then "mut " else "") ++ name) :: piece " = " :: .fixed ::
      value.layout ++ [piece ";"]), .line]
  | .run e => [loose (e.lineLayout ++ [piece ";"]), .line]
  | .result e => [loose e.lineLayout, .line]
  | .when condition body =>
    let head := [piece "if ", together (-Document.step) [together 0 condition.layout]]
    let inner := statementsLayout body
    let block := if inner.isEmpty then [piece "\x7b\x7d"] else
      piece "\x7b" :: Document.outdentLast (.line :: inner) ++ [piece "\x7d"]
    [loose [together Document.step (head ++ block)], .line]

def statementsLayout : List Statement → List Document
  | [] => []
  | s :: rest => s.layout ++ statementsLayout rest

end

end ScreenNavigation.Source
