import ScreenNavigation.Text.Characters
import ScreenNavigation.Text.WidthPoints

/-!
How many columns a text takes on a terminal. A text is a sequence of clusters, each a character
with all that joins it, and its width is the sum of their widths.
-/
namespace ScreenNavigation.Text

def isWide (c : Char) : Bool := !isAscii c && withinBoundaries widePoints c.toNat

/-- Characters that take no column of their own. -/
def isWidthless (c : Char) : Bool :=
  !isAscii c &&
    (withinBoundaries attachingPoints c.toNat || withinBoundaries widthlessPoints c.toNat)

/-- The columns of a character that stands alone. -/
def characterWidth (c : Char) : Nat :=
  if isWidthless c then 0 else if isWide c then 2 else 1

/-- A base character and the characters that join it, the last of them first. -/
structure Cluster where
  base : Char
  joined : List Char
  width : Nat
  deriving DecidableEq, Repr

namespace Cluster

def single (c : Char) : Cluster := ⟨c, [], characterWidth c⟩

def last (k : Cluster) : Char := k.joined.head?.getD k.base

def toList (k : Cluster) : List Char := k.base :: k.joined.reverse

private def emojiSelector : Char := '\uFE0F'

private def wordJoin : Char := '\u200D'

private def isSkinTone (c : Char) : Bool := 0x1f3fb ≤ c.toNat && c.toNat ≤ 0x1f3ff

private def isSelectable (c : Char) : Bool := withinBoundaries selectablePoints c.toNat

private def isPictograph (c : Char) : Bool :=
  !isAscii c && (isSelectable c ||
    (isWide c &&
      ((0x2300 ≤ c.toNat && c.toNat < 0x2c00) || (0x1f000 ≤ c.toNat && c.toNat < 0x20000))))

private def isLam (c : Char) : Bool :=
  c.toNat == 0x644 || (0x6b5 ≤ c.toNat && c.toNat ≤ 0x6b8) || c.toNat == 0x76a ||
    c.toNat == 0x8a6 || c.toNat == 0x8c7

private def isAlef (c : Char) : Bool :=
  c.toNat == 0x622 || c.toNat == 0x623 || c.toNat == 0x625 || c.toNat == 0x627 ||
    (0x671 ≤ c.toNat && c.toNat ≤ 0x673) || c.toNat == 0x675 || c.toNat == 0x773 ||
    c.toNat == 0x774 || (0x870 ≤ c.toNat && c.toNat ≤ 0x882)

/-- The width of a cluster once the character has joined it, if it joins. An alef joins a lam, a
line feed a carriage return, and emoji are joined by selectors, skin tones and each other. -/
def joinedWidth? (k : Cluster) (c : Char) : Option Nat :=
  if c = emojiSelector then some (if k.joined.isEmpty && isSelectable k.base then 2 else k.width)
  else if isWidthless c then some k.width
  else if k.last = '\r' ∧ c = '\n' then some k.width
  else if isSkinTone c && withinBoundaries tonedPoints k.last.toNat then some 2
  else if k.last = wordJoin ∧ isPictograph k.base ∧ isPictograph c then some k.width
  else if isLam k.base && isAlef c && k.joined.all isWidthless then some k.width
  else none

end Cluster

private def addCharacter (done : List Cluster) (c : Char) : List Cluster :=
  match done with
  | [] => [.single c]
  | k :: rest =>
    match k.joinedWidth? c with
    | some w => ⟨k.base, c :: k.joined, w⟩ :: rest
    | none => .single c :: k :: rest

/-- A text cut before each character that does not join what comes before it. -/
def clusters (s : List Char) : List Cluster := (s.foldl addCharacter []).reverse

/-- The columns that a text takes. -/
def displayWidth (s : List Char) : Nat := (clusters s).foldr (fun k n => k.width + n) 0

end ScreenNavigation.Text
