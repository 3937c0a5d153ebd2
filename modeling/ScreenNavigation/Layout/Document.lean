/-!
Documents that leave the choice of line ends open. A group either stands on one line or breaks; the
texts of a document and their order never change.
-/
namespace ScreenNavigation.Layout

/-- A place where a line may end. Unbroken it is `blank` spaces; broken it writes `before` on the old
line and `after` on the new one, which is indented by `offset` more than its group. -/
structure Break where
  offset : Int
  blank : Nat
  before : Option Char
  after : String
  /-- A break with nothing behind it in its group is left out. -/
  needsContent : Bool
  never : Bool
  deriving DecidableEq, Repr

/-- In a consistent group all breaks end lines or none does; in any other group only those do whose
next part does not fit. -/
inductive Document where
  | text (s : String)
  | break (b : Break)
  | group (offset : Int) (consistent : Bool) (content : List Document)
  /-- Nothing, but too wide for any line. -/
  | overfull

/-- Wider than every line. -/
def unbounded : Nat := 0xffff

namespace Break

def blanks (n : Nat) : Break := ⟨0, n, none, "", false, false⟩

/-- Nothing unless broken. -/
def empty : Break := blanks 0

def space : Break := blanks 1

/-- Ends the line in every group. -/
def line : Break := blanks unbounded

/-- Never ends a line, but the part in front of it is measured on its own. -/
def fixed : Break := { empty with never := true }

def shift (offset : Int) (b : Break) : Break := { b with offset := b.offset + offset }

end Break

namespace Document

/-- One step of indentation. -/
def step : Int := 4

def empty : Document := .break .empty

def space : Document := .break .space

def line : Document := .break .line

def fixed : Document := .break .fixed

/-- Indents a trailing break by one step less. -/
def outdentLast (ds : List Document) : List Document :=
  match ds.getLast? with
  | some (.break b) => ds.dropLast ++ [.break (b.shift (-step))]
  | _ => ds

/-- Parts with commas between them; behind the last one stands `last`. -/
def commaParts (last : Break) : List (List Document) → List Document
  | [] => []
  | [part] => part ++ [.break last]
  | part :: rest => part ++ [.text ",", space] ++ commaParts last rest

/-- A comma that stands only in front of a line end. -/
def trailingComma : Break := { Break.empty with before := some ',' }

/-- Parts that share a line or stand on indented lines of their own, with a comma behind each. -/
def commaList (parts : List (List Document)) : Document :=
  .group step true (outdentLast (empty :: commaParts trailingComma parts))

/-- Puts a separator between parts. -/
def separated (separator : List Document) : List (List Document) → List Document
  | [] => []
  | [part] => part
  | part :: rest => part ++ separator ++ separated separator rest

mutual

/-- The width on one line. -/
def width : Document → Nat
  | .text s => s.utf8ByteSize
  | .break b => b.blank
  | .group _ _ content => listWidth content
  | .overfull => unbounded

def listWidth : List Document → Nat
  | [] => 0
  | d :: rest => d.width + listWidth rest

end

/-- Content that goes on lines of its own as soon as it is wider than `limit`. -/
def limited (limit : Nat) (content : List Document) : List Document :=
  if limit < listWidth content then content ++ [.overfull] else content

mutual

/-- The texts that every choice of line ends shows, in order. -/
def texts : Document → List String
  | .text s => [s]
  | .group _ _ content => listTexts content
  | _ => []

def listTexts : List Document → List String
  | [] => []
  | d :: rest => d.texts ++ listTexts rest

end

end Document

end ScreenNavigation.Layout
