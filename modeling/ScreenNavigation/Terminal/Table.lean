import ScreenNavigation.Terminal.Wrapping

/-!
Tables for the terminal. Columns share the width of the terminal: those that need less than their
share get what they need, and the text of the others is wrapped.
-/
namespace ScreenNavigation.Terminal

open Text (displayWidth)

structure Cell where
  text : String
  isRight : Bool := false
  deriving DecidableEq, Repr

structure Table where
  header : List Cell
  rows : List (List Cell)
  deriving DecidableEq, Repr

namespace Cell

def lines (c : Cell) : List (List Char) := c.text.toList.splitOn '\n'

/-- The lines of a cell in a column of some width. -/
def wrapped (width : Nat) (c : Cell) : List (List Char) :=
  c.lines.flatMap fun l => if width < displayWidth l then wrap width l else [l]

/-- A line of the cell filled up to a width, with a space on each side. -/
def aligned (width : Nat) (c : Cell) (line : List Char) : List Char :=
  let fill := List.replicate (width - displayWidth line) ' '
  ' ' :: (if c.isRight then fill ++ line else line ++ fill) ++ [' ']

end Cell

private def widest (ls : List (List Char)) : Nat := (ls.map displayWidth).foldl max 0

/-- A column of cells with its width, once that is settled. -/
structure Column where
  cells : List Cell
  width? : Option Nat := none

namespace Column

/-- The width that leaves every line whole. -/
def need (c : Column) : Nat := max 1 (widest (c.cells.flatMap Cell.lines))

/-- The width that is used when the cells are wrapped at some width. -/
def wrappedNeed (width : Nat) (c : Column) : Nat := widest (c.cells.flatMap (Cell.wrapped width))

end Column

/-- The width to settle a column on, given the width that it would get as its share. -/
abbrev Settling := Nat → Column → Option Nat

private def settlePass (f : Settling) : List Column → Nat → Nat → List Column × Nat × Nat
  | [], free, unsettled => ([], free, unsettled)
  | c :: rest, free, unsettled =>
    match c.width?, f (free / unsettled) c with
    | none, some w =>
      let (rest, result) := settlePass f rest (free - w) (unsettled - 1)
      ({ c with width? := some w } :: rest, result)
    | _, _ =>
      let (rest, result) := settlePass f rest free unsettled
      (c :: rest, result)

/-- Settles columns as long as one more can be settled; what a column leaves of its share is added
to the shares of the others. -/
private def settle (f : Settling) : Nat → List Column → Nat → Nat → List Column × Nat × Nat
  | 0, cs, free, unsettled => (cs, free, unsettled)
  | passes + 1, cs, free, unsettled =>
    let (cs', free', unsettled') := settlePass f cs free unsettled
    if unsettled' = unsettled then (cs, free, unsettled) else settle f passes cs' free' unsettled'

/-- A column that needs no more than its share gets what it needs. -/
def settleByNeed : Settling := fun share c => if c.need ≤ share then some c.need else none

/-- A column gets less than its share if that leaves three columns over and wraps the text no
further. -/
def settleByWrapping : Settling := fun share c =>
  let w := c.wrappedNeed share
  if 3 ≤ share - w then some w else none

/-- Shares the rest evenly, the first columns getting one more. -/
private def distribute (share : Nat) : Nat → List Column → List Nat
  | _, [] => []
  | excess, c :: rest =>
    match c.width? with
    | some w => w :: distribute share excess rest
    | none => (if 0 < excess then share + 1 else share) :: distribute share (excess - 1) rest

/-- The widths of columns that share some width. -/
def columnWidths (width : Nat) (cs : List Column) : List Nat :=
  let (cs, free, unsettled) := settle settleByNeed (cs.length + 1) cs width cs.length
  let (cs, free, unsettled) := settle settleByWrapping (cs.length + 1) cs free unsettled
  let free := max free unsettled
  distribute (free / unsettled) (free % unsettled) cs

namespace Table

def columns (t : Table) : List Column :=
  (List.range t.header.length).map fun i => ⟨(t.header :: t.rows).filterMap (·[i]?), none⟩

/-- The lines of a row, each made of one part for every column. -/
private def rowParts (widths : List Nat) (row : List Cell) : List (List (List Char)) :=
  let cells := (widths.zip row).map fun (w, c) => (w, (c.wrapped w).map (c.aligned w))
  (List.range ((cells.map (·.2.length)).foldl max 0)).map fun i =>
    cells.map fun (w, ls) => (ls[i]?).getD (List.replicate (w + 2) ' ')

private def rowLines (widths : List Nat) (row : List Cell) : List (List Char) :=
  (rowParts widths row).map ([' '].intercalate ·)

private def rule (gap : Char) (widths : List Nat) : List Char :=
  [gap].intercalate (widths.map fun w => List.replicate (w + 2) '─')

/-- The text of a table, between two rules and with a third below the header. -/
def render (t : Table) (width : Nat) : String :=
  let count := t.header.length
  let widths := columnWidths (width - (count - 1) - 2 * count) t.columns
  let edge := rule ' ' widths
  let lines := edge :: rowLines widths t.header ++ rule '─' widths ::
    t.rows.flatMap (rowLines widths) ++ [edge]
  String.ofList (['\n'].intercalate lines)

end Table

end ScreenNavigation.Terminal
