import ScreenNavigation.Source.SyntaxText
import ScreenNavigation.Text.Quoted

/-!
Expressions and statements of generated code, and expressions as tokens.
-/
namespace ScreenNavigation.Source

inductive Expression where
  | name (p : Path)
  | literal (text : String)
  /-- The empty tuple. -/
  | unit
  | negative (e : Expression)
  | not (e : Expression)
  | reference (e : Expression)
  | field (e : Expression) (name : String)
  | call (function : Expression) (arguments : List Expression)
  | method (receiver : Expression) (name : String) (types : List Ty) (arguments : List Expression)
  | attempt (e : Expression)
  | closure (parameters : List String) (body : Expression)
  /-- A macro that stops the compilation with a message. -/
  | reject (message : String)
  /-- A value of the type itself; a field without a value takes the variable of its name. -/
  | record (fields : List (String × Option Expression))
  | assign (place value : Expression)

namespace Expression

/-- A path of plain names. -/
def path (names : List String) : Expression := .name (.ofNames names)

def word (name : String) : Expression := path [name]

/-- A constant of the type itself. -/
def ownConstant (name : String) : Expression := path ["Self", name]

def present (e : Expression) : Expression := .call (word "Some") [e]

def absent : Expression := word "None"

def text (s : String) : Expression := .literal (Text.stringLiteral s)

/-- The literal of a character; a double quote needs no escape there. -/
def character (c : Char) : Expression :=
  .literal (Text.quotedCharacter c)

end Expression

/-- What a conditional statement tests. -/
inductive Condition where
  | holds (e : Expression)
  /-- Whether a value is present; it is bound to the name. -/
  | present (binder : String) (e : Expression)

inductive Statement where
  | bind (mutable : Bool) (name : String) (value : Expression)
  | run (e : Expression)
  | result (e : Expression)
  | when (condition : Condition) (body : List Statement)

private def sep : List (List Token) → List Token
  | [] => []
  | [a] => a
  | a :: rest => a ++ .mark ',' false :: sep rest

mutual

def Expression.tokens : Expression → List Token
  | .name p => p.tokens
  | .literal text => [.literal text]
  | .unit => [.group .parenthesis []]
  | .negative e => .mark '-' false :: e.tokens
  | .not e => .mark '!' false :: e.tokens
  | .reference e => .mark '&' false :: e.tokens
  | .field e name => e.tokens ++ [.mark '.' false, .word name]
  | .call f arguments => f.tokens ++ [.group .parenthesis (sep (expressionsTokens arguments))]
  | .method receiver name types arguments =>
    receiver.tokens ++ [.mark '.' false, .word name] ++
      (if types.isEmpty then [] else
        [.mark ':' true, .mark ':' false, .mark '<' false] ++ sep (typesTokens types) ++
          [.mark '>' false]) ++
      [.group .parenthesis (sep (expressionsTokens arguments))]
  | .attempt e => e.tokens ++ [.mark '?' false]
  | .closure parameters body =>
    .mark '|' false :: sep (parameters.map fun p => [.word p]) ++ .mark '|' false :: body.tokens
  | .reject message =>
    [.word "compile_error", .mark '!' false,
      .group .parenthesis [.literal (Text.stringLiteral message)]]
  | .record fields => [.word "Self", .group .brace (sep (fieldsTokens fields))]
  | .assign place value => place.tokens ++ .mark '=' false :: value.tokens

def expressionsTokens : List Expression → List (List Token)
  | [] => []
  | e :: rest => e.tokens :: expressionsTokens rest

def fieldsTokens : List (String × Option Expression) → List (List Token)
  | [] => []
  | (name, .none) :: rest => [.word name] :: fieldsTokens rest
  | (name, .some e) :: rest => (.word name :: .mark ':' false :: e.tokens) :: fieldsTokens rest

end

mutual

/-- Tokens with one space between two of them, except behind a joint mark and inside brackets. -/
def spacedText : List Token → String
  | [] => ""
  | [t] => t.spacedText
  | .mark c true :: rest => c.toString ++ spacedText rest
  | t :: rest => t.spacedText ++ " " ++ spacedText rest

def Token.spacedText : Token → String
  | .word text => text
  | .lifetime text => text
  | .literal text => text
  | .mark c _ => c.toString
  | .group .brace [] => "\x7b \x7d"
  | .group .brace content => "\x7b " ++ Source.spacedText content ++ " \x7d"
  | .group d content => d.opening ++ Source.spacedText content ++ d.closing

end

end ScreenNavigation.Source
