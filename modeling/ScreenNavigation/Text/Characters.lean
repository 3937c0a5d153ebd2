import ScreenNavigation.Text.Boundaries
import ScreenNavigation.Text.HiddenPoints
import ScreenNavigation.Text.IdentifierPoints

/-!
Character classes. The ASCII part of each class is spelled out, the rest comes from the tables.
-/
namespace ScreenNavigation.Text

def isAscii (c : Char) : Bool := c.toNat < 0x80

def isAsciiDigit (c : Char) : Bool := '0' ≤ c && c ≤ '9'

def isAsciiLower (c : Char) : Bool := 'a' ≤ c && c ≤ 'z'

def isAsciiUpper (c : Char) : Bool := 'A' ≤ c && c ≤ 'Z'

/-- Letters, digits and the underscore of ASCII. -/
def isWordCharacter (c : Char) : Bool :=
  isAsciiLower c || isAsciiUpper c || isAsciiDigit c || c == '_'

/-- The Unicode property White_Space. -/
def isBlank (c : Char) : Bool :=
  c == ' ' || (9 ≤ c.toNat && c.toNat ≤ 13) || c.toNat == 0x85 || c.toNat == 0xa0 ||
    c.toNat == 0x1680 || (0x2000 ≤ c.toNat && c.toNat ≤ 0x200a) || c.toNat == 0x2028 ||
    c.toNat == 0x2029 || c.toNat == 0x202f || c.toNat == 0x205f || c.toNat == 0x3000

def isIdentifierStart (c : Char) : Bool :=
  if isAscii c then isAsciiLower c || isAsciiUpper c || c == '_'
  else withinBoundaries identifierStartPoints c.toNat

def isIdentifierContinue (c : Char) : Bool :=
  if isAscii c then isWordCharacter c
  else withinBoundaries identifierContinuePoints c.toNat

/-- Whether quoted text may show the character as itself. -/
def isShown (c : Char) : Bool :=
  if isAscii c then 0x20 ≤ c.toNat && c.toNat < 0x7f
  else !withinBoundaries attachingPoints c.toNat && !withinBoundaries unprintablePoints c.toNat

/-- The text without blanks at both ends. -/
def trimBlanks (s : List Char) : List Char :=
  ((s.dropWhile isBlank).reverse.dropWhile isBlank).reverse

section Trimming

/-- Where blanks were dropped there are none in front, and cutting the end off makes no new front. -/
private theorem dropWhile_of_prefix {s t : List Char} (h : t <+: s.dropWhile isBlank) :
    t.dropWhile isBlank = t := by
  cases t with
  | nil => rfl
  | cons c rest =>
    obtain ⟨more, same⟩ := h
    have front := List.head?_dropWhile_not isBlank s
    rw [← same] at front
    exact List.dropWhile_cons_of_neg (by simpa using front)

theorem trimBlanks_trimBlanks (s : List Char) : trimBlanks (trimBlanks s) = trimBlanks s := by
  have front : (trimBlanks s).dropWhile isBlank = trimBlanks s := by
    refine dropWhile_of_prefix (s := s) ?_
    rw [trimBlanks, ← List.reverse_suffix, List.reverse_reverse]
    exact List.dropWhile_suffix _
  have behind : (trimBlanks s).reverse.dropWhile isBlank = (trimBlanks s).reverse := by
    rw [trimBlanks, List.reverse_reverse]
    exact dropWhile_of_prefix List.prefix_rfl
  rw [trimBlanks, front, behind, List.reverse_reverse]

end Trimming

end ScreenNavigation.Text
