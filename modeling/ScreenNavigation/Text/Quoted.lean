import ScreenNavigation.Text.Characters

/-!
Quoted texts and characters: between quotation marks, with escapes for the marks, the backslash,
the usual controls, and every character that is not shown as itself.
-/
namespace ScreenNavigation.Text

def hexDigits (n : Nat) : String := String.ofList (Nat.toDigits 16 n)

/-- The escape of a code point by its number. -/
def codePointEscape (c : Char) : String := "\\u\x7b" ++ hexDigits c.toNat ++ "\x7d"

/-- One character between two `mark`s. -/
def escapeCharacter (mark : Char) (c : Char) : String :=
  if c = mark then "\\" ++ c.toString
  else if c = '\\' then "\\\\"
  else if c = '\n' then "\\n"
  else if c = '\r' then "\\r"
  else if c = '\t' then "\\t"
  else if c.toNat = 0 then "\\0"
  else if isShown c then c.toString
  else codePointEscape c

def quoteMark : Char := '\x22'

def singleMark : Char := '\x27'

/-- A text in double quotes. -/
def quoted (s : String) : String :=
  "\"" ++ String.join (s.toList.map (escapeCharacter quoteMark)) ++ "\""

/-- A character in single quotes. -/
def quotedCharacter (c : Char) : String := "'" ++ escapeCharacter singleMark c ++ "'"

def literalBody : List Char → List String
  | [] => []
  | c :: rest =>
    (if c.toNat = 0 ∧ rest.head?.any (fun d => '0' ≤ d && d ≤ '7') then "\\x00"
      else escapeCharacter quoteMark c) :: literalBody rest

/-- A string literal of generated code: a NUL before an octal digit is written in hexadecimal, so
that it does not read as an octal escape. -/
def stringLiteral (s : String) : String :=
  "\"" ++ String.join (literalBody s.toList) ++ "\""

end ScreenNavigation.Text
