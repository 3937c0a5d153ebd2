/-!
Tokens of source text. Brackets come in pairs, so a text is a forest of tokens and groups.
-/
namespace ScreenNavigation.Source

inductive Delimiter where
  | parenthesis
  | bracket
  | brace
  deriving DecidableEq, Repr

namespace Delimiter

def opening : Delimiter → String
  | .parenthesis => "("
  | .bracket => "["
  | .brace => "\x7b"

def closing : Delimiter → String
  | .parenthesis => ")"
  | .bracket => "]"
  | .brace => "\x7d"

end Delimiter

/-- A word is an identifier or a keyword, raw ones with their mark. A punctuation mark is `joint`
when another one follows it without a gap. -/
inductive Token where
  | word (text : String)
  | lifetime (text : String)
  | literal (text : String)
  | mark (c : Char) (joint : Bool)
  | group (delimiter : Delimiter) (content : List Token)
  deriving Repr

/-- Words that are no identifiers unless written raw. -/
def reservedWords : List String :=
  ["_", "abstract", "as", "async", "await", "become", "box", "break", "const", "continue", "crate",
    "do", "dyn", "else", "enum", "extern", "false", "final", "fn", "for", "if", "impl", "in", "let",
    "loop", "macro", "match", "mod", "move", "mut", "override", "priv", "pub", "ref", "return", "Self",
    "self", "static", "struct", "super", "trait", "true", "try", "type", "typeof", "unsafe",
    "unsized", "use", "virtual", "where", "while", "yield"]

/-- The keywords of every edition. The youngest one is still an identifier where paths are read. -/
def languageKeywords : List String := "gen" :: reservedWords

/-- Keywords that have no raw form. -/
def rawlessWords : List String := ["_", "crate", "self", "Self", "super"]

def isReserved (word : String) : Bool := reservedWords.contains word

/-- Words that may begin or continue a path although they are reserved; they take no arguments. -/
def isPathKeyword (word : String) : Bool := ["super", "self", "crate", "try"].contains word

end ScreenNavigation.Source
