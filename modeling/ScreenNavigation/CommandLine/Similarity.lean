/-!
How alike two names are, for hints on misspelt ones. The measure is Jaro's: shares of matching
characters near each other, less the matches that are out of order.
-/
namespace ScreenNavigation.CommandLine

/-- Marks the first unmarked occurrence of a character within some distance of a position. -/
private def mark (c : Char) (position reach : Nat) : Nat → List (Char × Bool) →
    Option (List (Char × Bool))
  | _, [] => none
  | i, (d, marked) :: rest =>
    if !marked && c == d && i ≤ position + reach && position ≤ i + reach then
      some ((d, true) :: rest)
    else (mark c position reach (i + 1) rest).map ((d, marked) :: ·)

/-- The characters of a text that have a match in the other, and the other with its matches. -/
private def pair (reach : Nat) : Nat → List Char → List (Char × Bool) →
    List Char × List (Char × Bool)
  | _, [], other => ([], other)
  | i, c :: rest, other =>
    match mark c i reach 0 other with
    | some other =>
      let (matched, other) := pair reach (i + 1) rest other
      (c :: matched, other)
    | none => pair reach (i + 1) rest other

private def share (part whole : Nat) : Float := Float.ofNat part / Float.ofNat whole

/-- A number from 0, for nothing in common, to 1 for equal texts. -/
def similarity (a b : String) : Float :=
  let (a, b) := (a.toList, b.toList)
  if a.isEmpty && b.isEmpty then 1
  else
    let (left, other) := pair (max a.length b.length / 2 - 1) 0 a (b.map (·, false))
    let right := (other.filter (·.2)).map (·.1)
    let swapped := ((left.zip right).countP fun (c, d) => c != d) / 2
    let n := left.length
    if n = 0 then 0
    else (share n a.length + share n b.length + share (n - swapped) n) / 3

private def insertScored (score : Float) (name : String) :
    List (Float × String) → List (Float × String)
  | [] => [(score, name)]
  | (s, m) :: rest =>
    if s > score then (score, name) :: (s, m) :: rest else (s, m) :: insertScored score name rest

/-- The names that are much like the given one, the most similar last. -/
def similarNames (given : String) (names : List String) : List String :=
  (names.foldl (fun found name =>
    let score := similarity given name
    if score > 0.7 then insertScored score name found else found) []).map (·.2)

end ScreenNavigation.CommandLine
