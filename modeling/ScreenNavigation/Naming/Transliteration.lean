import ScreenNavigation.Naming.Spelling.European
import ScreenNavigation.Naming.Spelling.Han
import ScreenNavigation.Naming.Spelling.Kana
import ScreenNavigation.Naming.Spelling.Latin
import ScreenNavigation.Naming.Spelling.Marks
import ScreenNavigation.Naming.Spelling.Pictures
import ScreenNavigation.Naming.Spelling.Semitic
import ScreenNavigation.Naming.Spelling.Southern
import ScreenNavigation.Naming.Spelling.Styled
import ScreenNavigation.Text.Characters

/-!
Spelling any text in ASCII, one character at a time. ASCII text is left alone, a character without
a spelling disappears.
-/
namespace ScreenNavigation.Naming

open Text

/-- Syllables are composed in the order of their first, middle and last letters. -/
private def hangulFirst : List String :=
  ["g", "kk", "n", "d", "tt", "r", "m", "b", "pp", "s", "ss", "", "j", "jj", "ch", "k", "t", "p", "h"]

private def hangulMiddle : List String :=
  ["a", "ae", "ya", "yae", "eo", "e", "yeo", "ye", "o", "wa", "wae", "oe", "yo", "u", "wo", "we", "wi",
    "yu", "eu", "ui", "i"]

private def hangulLast : List String :=
  ["", "g", "kk", "gs", "n", "nj", "nh", "d", "l", "lg", "lm", "lb", "ls", "lt", "lp", "lh", "m", "b",
    "bs", "s", "ss", "ng", "j", "ch", "k", "t", "p", "h"]

private def capitalised (s : String) : String :=
  match s.toList with
  | [] => s
  | c :: rest => String.ofList (c.toUpper :: rest)

/-- The spelling of a Korean syllable, with a capital at its start. -/
def hangulSpelling? (c : Char) : Option String :=
  if 0xac00 ≤ c.toNat ∧ c.toNat < 0xd7a4 then
    let n := c.toNat - 0xac00
    some (capitalised (hangulFirst.getD (n / 588) "" ++ hangulMiddle.getD (n / 28 % 21) "" ++
      hangulLast.getD (n % 28) ""))
  else none

def spellings : List (String × String) :=
  latinSpellings ++ europeanSpellings ++ semiticSpellings ++ kanaSpellings ++ southernSpellings ++
    styledSpellings ++ picturesSpellings ++ hanSpellings

private def tableSpelling? (c : Char) : Option String :=
  (spellings.find? (fun row => row.2.toList.contains c)).map (·.1)

/-- The ASCII spelling of one character; a mark without letters is a dash. -/
def transliterateChar (c : Char) : List Char :=
  if isAscii c then [c]
  else
    let spelled := (hangulSpelling? c <|> tableSpelling? c).getD
      (if withinBoundaries markPoints c.toNat then "-" else "")
    spelled.toList.filter isAscii

def transliterate (s : List Char) : List Char := s.flatMap transliterateChar

end ScreenNavigation.Naming
