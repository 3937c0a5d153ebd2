import ScreenNavigation.Naming.Transliteration

/-!
The words of a text: its runs of ASCII letters and digits. A sanitized name is its words joined by
single underscores.
-/
namespace ScreenNavigation.Naming

open Text

/-- Letters and digits of ASCII; everything else separates words. -/
def isWordLetter (c : Char) : Bool := isAsciiLower c || isAsciiUpper c || isAsciiDigit c

/-- Closes a word collected in reverse. -/
def closed : List Char → List (List Char)
  | [] => []
  | word => [word.reverse]

def wordsFrom (word : List Char) : List Char → List (List Char)
  | [] => closed word
  | c :: rest =>
    if isWordLetter c then wordsFrom (c :: word) rest else closed word ++ wordsFrom [] rest

/-- The runs of letters and digits, in order. -/
def words (s : List Char) : List (List Char) := wordsFrom [] s

def humpsFrom (hump : List Char) : List Char → List (List Char)
  | [] => closed hump
  | c :: rest =>
    if isAsciiUpper c && hump.head?.any isAsciiLower then closed hump ++ humpsFrom [c] rest
    else humpsFrom (c :: hump) rest

/-- Splits a word wherever a capital follows a small letter. -/
def humps (word : List Char) : List (List Char) := humpsFrom [] word

def joined (ws : List (List Char)) : List Char := List.intercalate ['_'] ws

/-- The spelled text with everything between its words replaced by one underscore. -/
def sanitizedBy (spell : List Char → List Char) (s : String) : String :=
  String.ofList (joined (words (spell s.toList)))

def sanitize (s : String) : String := sanitizedBy transliterate s

/-- The words of a sanitized name, split at their capitals. -/
def nameParts (s : String) : List (List Char) := (words (transliterate s.toList)).flatMap humps

end ScreenNavigation.Naming
