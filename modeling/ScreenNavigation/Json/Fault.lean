import ScreenNavigation.Json.Value
import ScreenNavigation.Text.Quoted

/-!
What can be wrong with a JSON text or with a value read as some type: a cause, the path to the
place inside the value, and the line and column when it came from a text.
-/
namespace ScreenNavigation.Json

open Decimal

/-- What was found where something else was expected. -/
inductive Found where
  | null
  | bool (b : Bool)
  | whole (n : Int)
  | real (x : Double)
  | text (s : String)
  | character (c : Char)
  | list
  | map
  deriving DecidableEq, Repr

def Found.describe : Found → String
  | .null => "null"
  | .bool b => "boolean `" ++ toString b ++ "`"
  | .whole n => "integer `" ++ toString n ++ "`"
  | .real x => "floating point `" ++ x.write .json ++ "`"
  | .text s => "string " ++ Text.quoted s
  | .character c => "character `" ++ c.toString ++ "`"
  | .list => "sequence"
  | .map => "map"

def Found.ofNumber : Number → Found
  | .whole n => .whole n.value
  | .real x => .real x

def Found.ofValue : Value → Found
  | .null => .null
  | .bool b => .bool b
  | .number n => .ofNumber n
  | .string s => .text s
  | .array _ => .list
  | .object _ => .map

inductive Cause where
  | endOfList
  | endOfObject
  | endOfString
  | endOfValue
  | colonExpected
  | listCommaOrEnd
  | objectCommaOrEnd
  | identExpected
  | valueExpected
  | badEscape
  | badNumber
  | numberRange
  | keyNotString
  | loneSurrogate
  | endOfHexEscape
  | controlCharacter
  | trailingComma
  | trailingCharacters
  | tooDeep
  | wrongType (found : Found) (expected : String)
  | wrongValue (found : Found) (expected : String)
  | wrongLength (length : Nat) (expected : String)
  | unknownVariant (name : String) (known : List String)
  | missingField (name : String)
  | duplicateField (name : String)
  | floatKey
  | notFinite (text : String)
  | other (text : String)
  deriving DecidableEq, Repr

private def oneOf (names : List String) : String :=
  match names.map (fun n => "`" ++ n ++ "`") with
  | [] => "there are no variants"
  | [a] => "expected " ++ a
  | [a, b] => "expected " ++ a ++ " or " ++ b
  | all => "expected one of " ++ String.intercalate ", " all

def Cause.message : Cause → String
  | .endOfList => "EOF while parsing a list"
  | .endOfObject => "EOF while parsing an object"
  | .endOfString => "EOF while parsing a string"
  | .endOfValue => "EOF while parsing a value"
  | .colonExpected => "expected `:`"
  | .listCommaOrEnd => "expected `,` or `]`"
  | .objectCommaOrEnd => "expected `,` or `\x7d`"
  | .identExpected => "expected ident"
  | .valueExpected => "expected value"
  | .badEscape => "invalid escape"
  | .badNumber => "invalid number"
  | .numberRange => "number out of range"
  | .keyNotString => "key must be a string"
  | .loneSurrogate => "lone leading surrogate in hex escape"
  | .endOfHexEscape => "unexpected end of hex escape"
  | .controlCharacter => "control character (\\u0000-\\u001F) found while parsing a string"
  | .trailingComma => "trailing comma"
  | .trailingCharacters => "trailing characters"
  | .tooDeep => "recursion limit exceeded"
  | .wrongType found expected => "invalid type: " ++ found.describe ++ ", expected " ++ expected
  | .wrongValue found expected => "invalid value: " ++ found.describe ++ ", expected " ++ expected
  | .wrongLength n expected => "invalid length " ++ toString n ++ ", expected " ++ expected
  | .unknownVariant name known => "unknown variant `" ++ name ++ "`, " ++ oneOf known
  | .missingField name => "missing field `" ++ name ++ "`"
  | .duplicateField name => "duplicate field `" ++ name ++ "`"
  | .floatKey => "float key must be finite (got NaN or +/-inf)"
  | .notFinite text => "non-finite float " ++ text ++ " has no JSON representation"
  | .other text => text

/-- One step of the way from a value to a part of it. -/
inductive Step where
  | key (name : String)
  | index (n : Nat)
  | unknown
  deriving DecidableEq, Repr

private def writeSteps (first : Bool) : List Step → String
  | [] => ""
  | .key name :: rest => (if first then "" else ".") ++ name ++ writeSteps false rest
  | .index n :: rest => "[" ++ toString n ++ "]" ++ writeSteps false rest
  | .unknown :: rest => (if first then "" else ".") ++ "?" ++ writeSteps false rest

/-- A path as text; the empty path is a single point. -/
def writePath (path : List Step) : String :=
  if path.isEmpty then "." else writeSteps true path

structure Place where
  line : Nat
  column : Nat
  deriving DecidableEq, Repr

structure Fault where
  path : List Step
  cause : Cause
  place : Option Place
  deriving DecidableEq, Repr

namespace Fault

/-- A fault of a value rather than of a text. -/
def ofCause (cause : Cause) : Fault := ⟨[], cause, none⟩

/-- The fault seen from one step further out. -/
def within (step : Step) (f : Fault) : Fault := { f with path := step :: f.path }

def message (f : Fault) : String :=
  f.cause.message ++
    match f.place with
    | some p => " at line " ++ toString p.line ++ " column " ++ toString p.column
    | none => ""

end Fault

end ScreenNavigation.Json
