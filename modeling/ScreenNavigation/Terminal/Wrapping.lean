import ScreenNavigation.Text.DisplayWidth

/-!
Breaking a line into lines of a given width. Words are kept whole where they fit on a line, and a
longer word fills up the line that it starts on.
-/
namespace ScreenNavigation.Terminal

open Text (Cluster clusters displayWidth)

/-- The part of a text that fits into some columns, and the rest. -/
private def cutAt (columns : Nat) : List Cluster → List Char × List Char
  | [] => ([], [])
  | k :: rest =>
    if k.width ≤ columns then
      let (front, back) := cutAt (columns - k.width) rest
      (k.toList ++ front, back)
    else ([], (k :: rest).flatMap Cluster.toList)

/-- The words between single spaces; two spaces have an empty word between them. -/
def words (s : List Char) : List (List Char) := s.splitOn ' '

/-- A line with at most so many columns left takes no part of the next word. -/
def leastRoom : Nat := 2

private def isFull (width : Nat) (line : List Char) : Bool :=
  width - leastRoom < displayWidth line

private def continued (line word : List Char) : List Char :=
  if line.isEmpty then word else line ++ ' ' :: word

private def wrapFrom (width : Nat) : Nat → List (List Char) → List Char → List (List Char)
  | 0, _, line => [line]
  | _, [], line => if line.isEmpty then [] else [line]
  | fuel + 1, word :: rest, line =>
    let gap := if line.isEmpty then 0 else 1
    let room := width - displayWidth line - gap
    if displayWidth (continued line word) ≤ width then
      let line := continued line word
      if isFull width line then line :: wrapFrom width fuel rest []
      else wrapFrom width fuel rest line
    else if !line.isEmpty && room ≤ leastRoom then line :: wrapFrom width fuel (word :: rest) []
    else if width < displayWidth word then
      let (front, back) := cutAt room (clusters word)
      let (front, back) :=
        if line.isEmpty && front.isEmpty then (back.take 1, back.drop 1) else (front, back)
      continued line front :: wrapFrom width fuel (back :: rest) []
    else if isFull width word then line :: word :: wrapFrom width fuel rest []
    else line :: wrapFrom width fuel rest word

/-- The lines of a text that is too wide for one line. Every second step at least takes a word or
a character away. -/
def wrap (width : Nat) (s : List Char) : List (List Char) :=
  wrapFrom width (4 * s.length + 4) (words s) []

end ScreenNavigation.Terminal
