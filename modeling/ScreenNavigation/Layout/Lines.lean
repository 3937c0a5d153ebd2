import ScreenNavigation.Layout.Document

/-!
Documents as lines. The size of a group or break reaches up to the next break behind it, and what
does not fit into the rest of its line is broken.
-/
namespace ScreenNavigation.Layout

/-- A document as a sequence of parts, groups as pairs of brackets. -/
private inductive Piece where
  | text (s : String)
  | break (b : Break)
  | opening (offset : Int) (consistent : Bool)
  | closing
  | overfull

/-- A group of one break is nothing, and a trailing break may need content behind it. -/
private def closed (offset : Int) (consistent : Bool) (content : List Piece) : List Piece :=
  match content, content.getLast? with
  | [.break _], _ => []
  | _, some (.break b) =>
    .opening offset consistent :: (if b.needsContent then content.dropLast else content) ++ [.closing]
  | _, _ => .opening offset consistent :: content ++ [.closing]

mutual

private def pieces : Document → List Piece
  | .text s => [.text s]
  | .break b => [.break b]
  | .group offset consistent content => closed offset consistent (listPieces content)
  | .overfull => [.overfull]

private def listPieces : List Document → List Piece
  | [] => []
  | d :: rest => pieces d ++ listPieces rest

end

/-- What stands to the right of a piece: its width, and the width from the next break on, for the
group at hand and the groups around it. -/
private structure Right where
  width : Nat
  next : List Nat

private def Right.reach (r : Right) (width : Nat) : Nat := width - r.next.headD 0

private def Right.set (r : Right) (width : Nat) : Right := ⟨width, width :: r.next.drop 1⟩

/-- Attaches to groups and breaks their sizes. -/
private def measured : List Piece → List (Piece × Nat) × Right
  | [] => ([], ⟨0, [0]⟩)
  | p :: rest =>
    let (out, r) := measured rest
    match p with
    | .text s => ((p, s.utf8ByteSize) :: out, { r with width := r.width + s.utf8ByteSize })
    | .overfull => ((p, 0) :: out, { r with width := r.width + unbounded })
    | .break b =>
      let width := r.width + b.blank
      ((p, r.reach width) :: out, r.set width)
    | .opening _ _ =>
      let outer : Right := { r with next := r.next.drop 1 }
      ((p, outer.reach r.width) :: out, outer)
    | .closing => ((p, 0) :: out, { r with next := r.next.headD 0 :: r.next })

private inductive Frame where
  | whole
  | broken (outer : Int) (consistent : Bool)

/-- The lines written so far; `pending` blanks are written in front of the next text. -/
private structure Page where
  out : String
  space : Int
  indent : Int
  pending : Nat
  frames : List Frame

/-- The width of a line. -/
private def margin : Int := 89

/-- A deeply indented line has at least this width. -/
private def least : Int := 60

private def Page.write (p : Page) (s : String) : Page :=
  { p with
    out := p.out ++ String.ofList (List.replicate p.pending ' ') ++ s
    pending := 0
    space := p.space - s.utf8ByteSize }

private def Page.breakLine (p : Page) (b : Break) : Page :=
  let old := match b.before with
    | some c => p.write c.toString
    | none => p
  let indent := p.indent + b.offset
  let new : Page :=
    { old with out := old.out ++ "\n", pending := indent.toNat, space := max (margin - indent) least }
  if b.after.isEmpty then new else new.write b.after

private def Page.add (p : Page) : Piece × Nat → Page
  | (.text s, _) => p.write s
  | (.overfull, _) => p
  | (.opening offset consistent, size) =>
    if (size : Int) ≤ p.space then { p with frames := .whole :: p.frames }
    else { p with frames := .broken p.indent consistent :: p.frames, indent := p.indent + offset }
  | (.closing, _) =>
    match p.frames with
    | .broken outer _ :: rest => { p with frames := rest, indent := outer }
    | _ => { p with frames := p.frames.drop 1 }
  | (.break b, size) =>
    let fits := b.never || match p.frames with
      | .whole :: _ => true
      | .broken _ true :: _ => false
      | _ => (size : Int) ≤ p.space
    if fits then { p with pending := p.pending + b.blank, space := p.space - b.blank }
    else p.breakLine b

namespace Document

/-- The lines of documents that follow each other. -/
def render (ds : List Document) : String :=
  ((measured (listPieces ds)).1.foldl Page.add ⟨"", margin, 0, 0, []⟩).out

end Document

/-- One text and the end of its line. The text may stand in a group. -/
structure Line where
  text : String
  group : Option (Int × Bool)

namespace Line

def documents (l : Line) : List Document :=
  match l.group with
  | none => [.text l.text, .line]
  | some (offset, consistent) => [.group offset consistent [.text l.text], .line]

private def pieces (l : Line) : List Piece :=
  match l.group with
  | none => [.text l.text, .break .line]
  | some (offset, consistent) =>
    [.opening offset consistent, .text l.text, .closing, .break .line]

private theorem listPieces_lines (ls : List Line) :
    listPieces (ls.flatMap documents) = ls.flatMap pieces := by
  induction ls with
  | nil => rfl
  | cons l rest ih =>
    rw [List.flatMap_cons, List.flatMap_cons, ← ih, documents, pieces]
    split <;> rfl

end Line

section Lines

variable {rest : List Piece} {first : Nat} {outer : List Nat}

/-- A line reaches beyond every margin, up to the end of the group around it. -/
private theorem measured_line (l : Line) (behind : (measured rest).2.next = first :: outer) :
    unbounded ≤ (measured (l.pieces ++ rest)).2.width ∧
      ∃ next, (measured (l.pieces ++ rest)).2.next = next :: outer := by
  rw [Line.pieces]
  split
  · simp only [List.cons_append, List.nil_append, measured, Right.set, Break.line, Break.blanks, behind]
    exact ⟨by omega, _, rfl⟩
  · simp only [List.cons_append, List.nil_append, measured, Right.set, Break.line, Break.blanks, behind,
      List.drop_succ_cons, List.drop_zero, List.headD_cons]
    exact ⟨by omega, _, rfl⟩

private theorem measured_lines (ls : List Line) (behind : (measured rest).2.next = first :: outer) :
    ∃ next, (measured (ls.flatMap Line.pieces ++ rest)).2.next = next :: outer := by
  induction ls with
  | nil => exact ⟨first, behind⟩
  | cons l ls ih =>
    obtain ⟨next, later⟩ := ih
    rw [List.flatMap_cons, List.append_assoc]
    exact (measured_line l later).2

private def Page.addAll (p : Page) (ps : List Piece) : Page := (measured ps).1.foldl Page.add p

private theorem addAll_cons (page : Page) (p : Piece) (rest : List Piece) :
    ∃ size, page.addAll (p :: rest) = (page.add (p, size)).addAll rest := by
  cases p <;> exact ⟨_, rfl⟩

/-- At the start of a line, in a broken group without indentation. -/
private def Page.start (out : String) : Page := ⟨out, margin, 0, 0, [.broken 0 true]⟩

private theorem add_text (out text : String) (space indent : Int) (frames : List Frame) (size : Nat) :
    Page.add ⟨out, space, indent, 0, frames⟩ (.text text, size) =
      ⟨out ++ text, space - text.utf8ByteSize, indent, 0, frames⟩ := by
  simp [Page.add, Page.write]

private theorem add_line (out : String) (space : Int) (size : Nat) :
    Page.add ⟨out, space, 0, 0, [.broken 0 true]⟩ (.break .line, size) = .start (out ++ "\n") := rfl

private theorem add_opening (out : String) (offset : Int) (consistent : Bool) (size : Nat) :
    ∃ indent frame, (Page.start out).add (.opening offset consistent, size) =
        ⟨out, margin, indent, 0, [frame, .broken 0 true]⟩ ∧
      ∀ text space size, Page.add ⟨text, space, indent, 0, [frame, .broken 0 true]⟩ (.closing, size) =
        ⟨text, space, 0, 0, [.broken 0 true]⟩ := by
  rw [Page.add]
  split
  · exact ⟨_, _, rfl, fun _ _ _ => rfl⟩
  · exact ⟨_, _, rfl, fun _ _ _ => rfl⟩

private theorem addAll_line (l : Line) (out : String) (rest : List Piece) :
    (Page.start out).addAll (l.pieces ++ rest) = (Page.start (out ++ l.text ++ "\n")).addAll rest := by
  rw [Line.pieces]
  split
  · obtain ⟨a, first⟩ := addAll_cons (.start out) (.text l.text) (.break .line :: rest)
    obtain ⟨b, second⟩ := addAll_cons ((Page.start out).add (.text l.text, a)) (.break .line) rest
    rw [List.cons_append, List.cons_append, List.nil_append, first, second, Page.start, add_text, add_line]
  · rename_i offset consistent _
    obtain ⟨a, first⟩ := addAll_cons (.start out) (.opening offset consistent)
      (.text l.text :: .closing :: .break .line :: rest)
    obtain ⟨indent, frame, opened, closes⟩ := add_opening out offset consistent a
    obtain ⟨b, second⟩ := addAll_cons ⟨out, margin, indent, 0, [frame, .broken 0 true]⟩ (.text l.text)
      (.closing :: .break .line :: rest)
    rw [opened] at first
    rw [add_text] at second
    obtain ⟨c, third⟩ := addAll_cons ⟨out ++ l.text, _, indent, 0, [frame, .broken 0 true]⟩ .closing
      (.break .line :: rest)
    rw [closes] at third
    obtain ⟨d, fourth⟩ := addAll_cons ⟨out ++ l.text, _, 0, 0, [.broken 0 true]⟩ (.break .line) rest
    rw [add_line] at fourth
    exact first.trans (second.trans (third.trans fourth))

private theorem addAll_lines (ls : List Line) (out : String) (rest : List Piece) :
    (Page.start out).addAll (ls.flatMap Line.pieces ++ rest) =
      (Page.start (out ++ String.join (ls.map fun l => l.text ++ "\n"))).addAll rest := by
  induction ls generalizing out with
  | nil => simp
  | cons l ls ih =>
    rw [List.flatMap_cons, List.append_assoc, addAll_line, ih, List.map_cons, String.join_cons,
      String.append_assoc, String.append_assoc, String.append_assoc]

private theorem break_mem_pieces {l : Line} {b : Break} (h : .break b ∈ l.pieces) : b = .line := by
  rw [Line.pieces] at h
  split at h
  · simpa using h
  · simpa using h

private theorem pieces_ne_break (ls : List Line) (b : Break) : ls.flatMap Line.pieces ≠ [.break b] := by
  intro single
  cases ls with
  | nil => cases single
  | cons l ls =>
    rw [List.flatMap_cons, Line.pieces] at single
    split at single
    · cases single
    · cases single

private theorem closed_lines (ls : List Line) :
    closed 0 true (ls.flatMap Line.pieces) =
      .opening 0 true :: (ls.flatMap Line.pieces ++ [.closing]) := by
  unfold closed
  split
  · rename_i b single
    exact absurd single (pieces_ne_break ls b)
  · rename_i b last _
    obtain ⟨l, _, listed⟩ := List.mem_flatMap.mp (List.mem_of_getLast? last)
    rw [break_mem_pieces listed]
    rfl
  · rfl

/-- A group that ends with the document is as wide as what it holds. -/
private theorem measured_opening {last : Nat} (top : (measured rest).2.next = [last, 0]) :
    (measured (.opening 0 true :: rest)).1 =
      (.opening 0 true, (measured rest).2.width) :: (measured rest).1 := by
  simp [measured, Right.reach, top]

private theorem add_outer {size : Nat} (wide : unbounded ≤ size) :
    Page.add ⟨"", margin, 0, 0, []⟩ (.opening 0 true, size) = .start "" := by
  have beyond : ¬ (size : Int) ≤ margin := by
    rw [unbounded] at wide
    rw [margin]
    omega
  exact if_neg beyond

/-- Lines of one group are written one after the other, however long they are. -/
theorem Document.render_lines (ls : List Line) :
    render [.group 0 true (ls.flatMap Line.documents)] =
      String.join (ls.map fun l => l.text ++ "\n") := by
  have all : listPieces [.group 0 true (ls.flatMap Line.documents)] =
      .opening 0 true :: (ls.flatMap Line.pieces ++ [.closing]) := by
    rw [listPieces, listPieces, pieces, List.append_nil, Line.listPieces_lines, closed_lines]
  rw [render, all]
  cases ls with
  | nil => rfl
  | cons l ls =>
    have behind : (measured [.closing]).2.next = [0, 0] := rfl
    obtain ⟨next, later⟩ := measured_lines ls behind
    obtain ⟨wide, last, top⟩ := measured_line l later
    rw [← List.append_assoc, ← List.flatMap_cons] at wide top
    rw [measured_opening top, List.foldl_cons, add_outer wide]
    refine (congrArg Page.out (addAll_lines (l :: ls) "" [.closing])).trans ?_
    exact String.empty_append

end Lines

end ScreenNavigation.Layout
