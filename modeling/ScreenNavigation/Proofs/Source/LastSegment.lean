import ScreenNavigation.Proofs.Source.ParserSuffixes
import ScreenNavigation.Proofs.Source.TokenPositions

/-! The colons in front of the last segment of a path. They are found by the readers themselves: the
scanner arrives at them behind whole groups, and the reader of segments takes all that is behind them. Of the
arguments of segments nothing is needed but that their reader puts no tokens back. -/
namespace ScreenNavigation.Source

open Text

variable {angles : Nat → Parser Arguments}

namespace Parser

/-- Among the tokens the reader of segments takes `prev` up to two colons, and all that is behind these as
`last`. -/
def SeparatesLast (angles : Nat → Parser Arguments) (ts : List Token) (prev last : Segment)
    (after : List Token) : Prop :=
  ∃ (s u t : Input) (fuel fuel' : Nat) (joint : Bool), s.rest <:+ ts ∧
    segmentBy angles fuel s = .ok (prev, u) ∧ u.rest = .mark ':' true :: .mark ':' joint :: after ∧
      segmentBy angles fuel' { u with rest := after } = .ok (last, t) ∧ t.rest = []

end Parser

/-- The text without a byte order mark at its start. -/
def withoutOrderMark (s : List Char) : List Char :=
  if s.head?.any (·.toNat == 0xfeff) then s.drop 1 else s

/-- A text that reads as a path, cut at the two colons between its last segment and the one before. -/
structure LastCut (angles : Nat → Parser Arguments) (raw : List Char) (prev last : Segment)
    (before after : List Char) : Prop where
  whole : raw = before ++ ':' :: ':' :: after
  tokens : ∃ fronts front joint back, Takes (withoutOrderMark raw) fronts (':' :: ':' :: after) ∧
    Groups fronts front ∧ Reads after back ∧
      Parser.SeparatesLast angles (front ++ .mark ':' true :: .mark ':' joint :: back) prev last back

theorem LastCut.head_ne_colon (marks : Parser.MarksTurbofish angles) {raw before after : List Char}
    {prev last : Segment} (h : LastCut angles raw prev last before after) : after.head? ≠ some ':' := by
  obtain ⟨_, _, _, back, _, _, reads, _, _, _, _, _, _, _, _, _, read, _⟩ := h.tokens
  obtain ⟨w, rest, first, _⟩ := Parser.segmentBy_ok marks read
  have word : back = .word w :: rest := first
  rw [word] at reads
  exact reads.head_ne_colon

end ScreenNavigation.Source
