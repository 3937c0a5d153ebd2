import Mathlib.Data.List.Basic
import ScreenNavigation.Source.Parsing

/-! How the tokens of an accepted path begin. Up to its first angle bracket a path is a row of words with
two colons between them, and perhaps two more in front and two at the end. -/
namespace ScreenNavigation.Source

namespace Parser

section Runs

variable {α β : Type} {x : Parser α} {f : α → Parser β} {s t : Input} {b : β}

theorem bind_eq_ok :
    (x >>= f) s = .ok (b, t) ↔ ∃ a u, x s = .ok (a, u) ∧ f a u = .ok (b, t) := by
  change (Except.bind (x s) fun p => f p.1 p.2) = _ ↔ _
  cases x s with
  | error e => simp [Except.bind]
  | ok p =>
    obtain ⟨a, u⟩ := p
    simp [Except.bind]

theorem pure_eq_ok {a : α} {c : α} : (pure a : Parser α) s = .ok (c, t) ↔ a = c ∧ s = t := by
  change Except.ok (a, s) = .ok (c, t) ↔ _
  simp

theorem ite_ok {c : Bool} {y : Parser α} {a : α}
    (h : (if c = true then x else y) s = .ok (a, t)) :
    c = true ∧ x s = .ok (a, t) ∨ y s = .ok (a, t) := by
  split at h
  · rename_i yes
    exact .inl ⟨yes, h⟩
  · exact .inr h

theorem tokens_eq (s : Input) : tokens s = .ok (s.rest, s) := rfl

theorem drop_eq (n : Nat) (s : Input) : drop n s = .ok ((), { s with rest := s.rest.drop n }) := rfl

theorem atMarks_eq (marks : String) (s : Input) :
    atMarks marks s = .ok (startsWith marks s.rest, s) := rfl

theorem failWith_ne_ok {choices : List String} {a : α} : failWith choices s ≠ .ok (a, t) := by
  rintro ⟨⟩

theorem takeMarks_ok {marks : String} {found : Bool} (h : takeMarks marks s = .ok (found, t)) :
    found = startsWith marks s.rest ∧
      t = if found then { s with rest := s.rest.drop marks.length } else s := by
  obtain ⟨here, u, test, taken⟩ := bind_eq_ok.mp h
  rw [atMarks_eq] at test
  cases test
  cases marked : startsWith marks s.rest with
  | true =>
    simp only [marked, if_true, bind_eq_ok, drop_eq, pure_eq_ok] at taken
    obtain ⟨_, _, ⟨⟩, rfl, rfl⟩ := taken
    exact ⟨rfl, rfl⟩
  | false =>
    simp only [marked, Bool.false_eq_true, if_false, pure_eq_ok] at taken
    obtain ⟨rfl, rfl⟩ := taken
    exact ⟨rfl, rfl⟩

/-- The front word of an input, where a reader goes on only with a word. -/
private theorem word_of_match {go : String → List Token → Parser β} {choices : List String}
    (h : (match s.rest with
      | .word w :: rest => go w rest
      | _ => failWith choices) s = .ok (b, t)) :
    ∃ w rest, s.rest = .word w :: rest ∧ go w rest s = .ok (b, t) := by
  cases first : s.rest with
  | nil =>
    simp only [first] at h
    exact absurd h failWith_ne_ok
  | cons head rest =>
    simp only [first] at h
    cases head with
    | word w => exact ⟨w, rest, rfl, h⟩
    | lifetime | literal | mark | group => exact absurd h failWith_ne_ok

private theorem dropOne_ok {a c : α} {head : Token} {rest : List Token}
    (first : s.rest = head :: rest)
    (h : (drop 1 >>= fun _ => pure a : Parser α) s = .ok (c, t)) : c = a ∧ t.rest = rest := by
  obtain ⟨_, u, dropped, same⟩ := bind_eq_ok.mp h
  rw [drop_eq] at dropped
  cases dropped
  obtain ⟨rfl, rfl⟩ := pure_eq_ok.mp same
  rw [first]
  exact ⟨rfl, rfl⟩

theorem identifier_ok {w : String} (h : identifier s = .ok (w, t)) :
    ∃ rest, s.rest = .word w :: rest ∧ t.rest = rest := by
  obtain ⟨ts, u, read, taken⟩ := bind_eq_ok.mp h
  rw [tokens_eq] at read
  cases read
  obtain ⟨word, rest, first, read⟩ := word_of_match taken
  split at read
  · cases read
  · obtain ⟨rfl, kept⟩ := dropOne_ok first read
    exact ⟨rest, first, kept⟩

end Runs

section Paths

variable {fuel : Nat} {s t : Input}

/-- What stands behind the word of a segment with arguments. -/
def StartsArguments (turbofish : Bool) (ts : List Token) : Prop :=
  if turbofish then startsWith "::" ts = true ∧ startsWith "<" (ts.drop 2) = true
  else startsWith "<" ts = true

theorem exists_of_startsWith_angle {ts : List Token} (h : startsWith "<" ts = true) :
    ∃ joint rest, ts = .mark '<' joint :: rest := by
  cases ts with
  | nil => cases h
  | cons first rest =>
    cases first with
    | mark c joint =>
      have same : c = '<' := by simpa [startsWith] using h
      exact ⟨joint, rest, by rw [same]⟩
    | word | lifetime | literal | group => cases h

theorem exists_of_startsWith_colons {ts : List Token} (h : startsWith "::" ts = true) :
    ∃ joint, ts = .mark ':' true :: .mark ':' joint :: ts.drop 2 := by
  cases ts with
  | nil => cases h
  | cons first rest =>
    cases first with
    | mark c joint =>
      cases rest with
      | nil => simp [startsWith] at h
      | cons second rest =>
        cases second with
        | mark d joint' =>
          obtain ⟨⟨rfl, rfl⟩, rfl⟩ : (c = ':' ∧ joint = true) ∧ d = ':' := by
            simpa [startsWith] using h
          exact ⟨joint', rfl⟩
        | word | lifetime | literal | group => simp [startsWith] at h
    | word | lifetime | literal | group => cases h

/-- An angle bracket is no colon, so that the two ways to begin arguments exclude each other. -/
private theorem startsArguments_of_marks {ts : List Token}
    (h : (startsWith "<" ts && !startsWith "<=" ts ||
      startsWith "::" ts && startsWith "<" (ts.drop 2)) = true) :
    StartsArguments (startsWith "::" ts) ts := by
  simp only [Bool.or_eq_true, Bool.and_eq_true] at h
  rw [StartsArguments]
  cases colons : startsWith "::" ts with
  | true =>
    rw [if_pos rfl]
    refine ⟨rfl, ?_⟩
    obtain ⟨angle, _⟩ | ⟨_, angle⟩ := h
    · obtain ⟨joint, rest, rfl⟩ := exists_of_startsWith_angle angle
      simp [startsWith] at colons
    · exact angle
  | false =>
    rw [if_neg Bool.false_ne_true]
    obtain ⟨angle, _⟩ | ⟨other, _⟩ := h
    · exact angle
    · rw [colons] at other
      cases other

/-- The reader of arguments says of them whether two colons stand in front. -/
def MarksTurbofish (angles : Nat → Parser Arguments) : Prop :=
  ∀ ⦃fuel : Nat⦄ ⦃s t : Input⦄ ⦃a : Arguments⦄, angles fuel s = .ok (a, t) →
    ∃ items trailing, a = .angle (startsWith "::" s.rest) items trailing

theorem marksTurbofish_angleArguments : MarksTurbofish angleArguments := by
  intro fuel s t a h
  cases fuel with
  | zero =>
    simp only [angleArguments] at h
    cases h
  | succ fuel =>
    rw [angleArguments] at h
    obtain ⟨turbofish, u, marks, h⟩ := bind_eq_ok.mp h
    obtain ⟨_, _, _, h⟩ := bind_eq_ok.mp h
    obtain ⟨_, _, _, h⟩ := bind_eq_ok.mp h
    obtain ⟨_, _, _, h⟩ := bind_eq_ok.mp h
    obtain ⟨rfl, _⟩ := pure_eq_ok.mp h
    rw [← (takeMarks_ok marks).1]
    exact ⟨_, _, rfl⟩

variable {angles : Nat → Parser Arguments} (marks : MarksTurbofish angles)

include marks

private theorem segment_behind {reader : Parser String} {w : String} {rest : List Token} {a : Segment}
    (kept : ∀ name u, reader s = .ok (name, u) → name = w ∧ u.rest = rest)
    (h : (reader >>= fun name =>
      if (startsWith "<" rest && !startsWith "<=" rest ||
        startsWith "::" rest && startsWith "<" (rest.drop 2)) = true then
        angles fuel >>= fun found => pure (.mk name found)
      else pure (.mk name .none)) s = .ok (a, t)) :
    a = .mk w .none ∧ t.rest = rest ∨ ∃ turbofish items trailing,
      a = .mk w (.angle turbofish items trailing) ∧ StartsArguments turbofish rest := by
  obtain ⟨name, u, read, taken⟩ := bind_eq_ok.mp h
  obtain ⟨rfl, rfl⟩ := kept name u read
  split at taken
  · rename_i marked
    obtain ⟨found, v, behind, same⟩ := bind_eq_ok.mp taken
    obtain ⟨rfl, _⟩ := pure_eq_ok.mp same
    obtain ⟨items, trailing, rfl⟩ := marks behind
    exact .inr ⟨_, items, trailing, rfl, startsArguments_of_marks marked⟩
  · obtain ⟨rfl, rfl⟩ := pure_eq_ok.mp taken
    exact .inl ⟨rfl, rfl⟩

/-- A segment is a word, maybe with arguments behind it. -/
theorem segmentBy_ok {a : Segment} (h : segmentBy angles fuel s = .ok (a, t)) :
    ∃ w rest, s.rest = .word w :: rest ∧ (a = .mk w .none ∧ t.rest = rest ∨
      ∃ turbofish items trailing, a = .mk w (.angle turbofish items trailing) ∧
        StartsArguments turbofish rest) := by
  cases fuel with
  | zero =>
    simp only [segmentBy] at h
    cases h
  | succ fuel =>
    simp only [segmentBy, segmentStep] at h
    obtain ⟨ts, u, read, taken⟩ := bind_eq_ok.mp h
    rw [tokens_eq] at read
    cases read
    obtain ⟨w, rest, first, read⟩ := word_of_match taken
    refine ⟨w, rest, first, ?_⟩
    split at read
    · exact .inl (dropOne_ok first read)
    · split at read
      · exact segment_behind marks (fun name u taken => dropOne_ok first taken) read
      · refine segment_behind marks (fun name u taken => ?_) read
        obtain ⟨rest', same, kept⟩ := identifier_ok taken
        rw [first] at same
        cases same
        exact ⟨rfl, kept⟩

omit marks

/-- Segments are read one behind the other, with two colons between them. -/
inductive ReadsSegments (angles : Nat → Parser Arguments) : Input → List Segment → Input → Prop where
  | last {s t : Input} {a : Segment} {fuel : Nat} (read : segmentBy angles fuel s = .ok (a, t)) :
      ReadsSegments angles s [a] t
  | more {s u t : Input} {a : Segment} {more : List Segment} {fuel : Nat}
      (read : segmentBy angles fuel s = .ok (a, u)) (apart : startsWith "::" u.rest = true)
      (behind : ReadsSegments angles { u with rest := u.rest.drop 2 } more t) :
      ReadsSegments angles s (a :: more) t

theorem ReadsSegments.ne_nil {segments : List Segment} (h : ReadsSegments angles s segments t) :
    segments ≠ [] := by
  cases h <;> exact List.cons_ne_nil _ _

private theorem readsSegments_of_ok {fuel' : Nat} {a : Segment} {more : List Segment} {u : Input}
    (head : segmentBy angles fuel s = .ok (a, u)) (tail : moreSegmentsBy angles fuel' u = .ok (more, t)) :
    ReadsSegments angles s (a :: more) t := by
  induction fuel' generalizing fuel s a more u with
  | zero =>
    simp only [moreSegmentsBy] at tail
    cases tail
  | succ fuel' ih =>
    simp only [moreSegmentsBy, moreSegmentsStep] at tail
    obtain ⟨ts, v, read, taken⟩ := bind_eq_ok.mp tail
    rw [tokens_eq] at read
    cases read
    obtain ⟨marked, behind⟩ | done := ite_ok taken
    · rw [Bool.and_eq_true] at marked
      obtain ⟨_, v, dropped, behind⟩ := bind_eq_ok.mp behind
      rw [drop_eq] at dropped
      cases dropped
      obtain ⟨b, v, first, behind⟩ := bind_eq_ok.mp behind
      obtain ⟨more', v', later, same⟩ := bind_eq_ok.mp behind
      obtain ⟨rfl, rfl⟩ := pure_eq_ok.mp same
      exact .more head marked.1 (ih first later)
    · obtain ⟨rfl, rfl⟩ := pure_eq_ok.mp done
      exact .last head

/-- A path is read as its segments, behind two colons or not. -/
theorem pathBy_ok {p : Path} (h : pathBy angles fuel s = .ok (p, t)) :
    ReadsSegments angles s p.segments t ∨
      startsWith "::" s.rest = true ∧
        ReadsSegments angles { s with rest := s.rest.drop 2 } p.segments t := by
  cases fuel with
  | zero =>
    simp only [pathBy] at h
    cases h
  | succ fuel =>
    simp only [pathBy, pathStep] at h
    obtain ⟨leading, u, marks, behind⟩ := bind_eq_ok.mp h
    obtain ⟨first, v, head, behind⟩ := bind_eq_ok.mp behind
    obtain ⟨more, v', tail, same⟩ := bind_eq_ok.mp behind
    obtain ⟨rfl, rfl⟩ := pure_eq_ok.mp same
    have segments := readsSegments_of_ok head tail
    obtain ⟨rfl, rfl⟩ := takeMarks_ok marks
    cases marked : startsWith "::" s.rest with
    | true =>
      rw [marked, if_pos rfl] at segments
      exact .inr ⟨rfl, segments⟩
    | false =>
      rw [marked, if_neg Bool.false_ne_true] at segments
      exact .inl segments

/-- What is read by a run over all tokens leaves none. -/
theorem readsSegments_of_runAll {ts : List Token} {p : Path}
    (h : runAll (pathBy angles) ts = .ok p) : ∃ t : Input, t.rest = [] ∧
      (ReadsSegments angles ⟨ts, false⟩ p.segments t ∨
        startsWith "::" ts = true ∧ ReadsSegments angles ⟨ts.drop 2, false⟩ p.segments t) := by
  rw [runAll] at h
  cases read : (pathBy angles (8 * (listWeight ts + 2))).run ⟨ts, false⟩ with
  | error f =>
    rw [read] at h
    cases h
  | ok found =>
    obtain ⟨q, t⟩ := found
    rw [read] at h
    change (if (t.surplus || !t.rest.isEmpty) = true then _ else _) = _ at h
    split at h
    · cases h
    · rename_i whole
      simp only [Bool.or_eq_true, Bool.not_eq_true', not_or, Bool.not_eq_false,
        List.isEmpty_iff] at whole
      cases h
      exact ⟨t, whole.2, pathBy_ok read⟩

/-- How the tokens of the segments begin, up to the end or the first arguments. -/
inductive Segmented : List Token → List Segment → Prop where
  | last (w : String) : Segmented [.word w] [.mk w .none]
  | arguments (w : String) {turbofish : Bool} {items : List Argument} {trailing : Bool} {ts : List Token}
      (starts : StartsArguments turbofish ts) (behind : List Segment) :
      Segmented (.word w :: ts) (.mk w (.angle turbofish items trailing) :: behind)
  | more (w : String) {ts : List Token} {behind : List Segment} (apart : startsWith "::" ts = true)
      (later : Segmented (ts.drop 2) behind) : Segmented (.word w :: ts) (.mk w .none :: behind)

theorem Segmented.ne_nil {ts : List Token} {segments : List Segment} (h : Segmented ts segments) :
    segments ≠ [] := by
  cases h <;> exact List.cons_ne_nil _ _

theorem ReadsSegments.segmented (marks : MarksTurbofish angles) {segments : List Segment}
    (h : ReadsSegments angles s segments t) (whole : t.rest = []) : Segmented s.rest segments := by
  induction h with
  | last read =>
    obtain ⟨w, rest, same, ⟨rfl, kept⟩ | ⟨turbofish, items, trailing, rfl, starts⟩⟩ := segmentBy_ok marks read
    · rw [same, ← kept, whole]
      exact .last w
    · rw [same]
      exact .arguments w starts []
  | @more s u t a more fuel read apart behind ih =>
    obtain ⟨w, rest, same, ⟨rfl, kept⟩ | ⟨turbofish, items, trailing, rfl, starts⟩⟩ := segmentBy_ok marks read
    · rw [same, ← kept]
      exact .more w apart (ih whole)
    · rw [same]
      exact .arguments w starts more

end Paths

end Parser

end ScreenNavigation.Source
