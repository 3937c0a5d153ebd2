import ScreenNavigation.Json.Reading

/-! What readers of JSON make of the text in front of them. Lines and columns are for faults only: a step is
known by what it gives, by the text it leaves and by the depth, which stays the same. -/
namespace ScreenNavigation.Json.Reader

variable {α β : Type} {c d : Cursor} {text rest : List Char}

/-- The reader gives the value and leaves the text, at the depth where it started. -/
def Gives (r : Reader α) (c : Cursor) (a : α) (rest : List Char) : Prop :=
  ∃ d, r c = .ok a d ∧ d.rest = rest ∧ d.depth = c.depth

namespace Gives

variable {r : Reader α} {f : α → Reader β} {a : α} {b : β}

theorem pure (a : α) (c : Cursor) : Gives (Pure.pure a) c a c.rest := ⟨c, rfl, rfl, rfl⟩

theorem bind (first : Gives r c a text)
    (second : ∀ d : Cursor, d.rest = text → d.depth = c.depth → Gives (f a) d b rest) :
    Gives (r >>= f) c b rest := by
  obtain ⟨d, done, left, depth⟩ := first
  obtain ⟨e, done', left', depth'⟩ := second d left depth
  refine ⟨e, ?_, left', depth'.trans depth⟩
  change EStateM.bind r f c = _
  rw [EStateM.bind, done]
  exact done'

theorem map (f : α → β) (first : Gives r c a rest) : Gives (f <$> r) c (f a) rest := by
  rw [map_eq_pure_bind]
  exact first.bind fun d left _ => left ▸ pure (f a) d

theorem within (step : Step) (h : Gives r c a rest) : Gives (Reader.within step r) c a rest := by
  obtain ⟨d, done, left⟩ := h
  exact ⟨d, by rw [Reader.within, done], left⟩

theorem placed (h : Gives r c a rest) : Gives (Reader.placed r) c a rest := by
  obtain ⟨d, done, left⟩ := h
  exact ⟨d, by rw [Reader.placed, done], left⟩

theorem closedBy {close : Reader Unit} (body : Gives r c a text)
    (closes : ∀ d : Cursor, d.rest = text → d.depth = c.depth → Gives close d () rest) :
    Gives (Reader.closedBy r close) c a rest := by
  obtain ⟨d, done, left, depth⟩ := body
  obtain ⟨e, done', left', depth'⟩ := closes d left depth
  refine ⟨e, ?_, left', depth'.trans depth⟩
  simp only [Reader.closedBy, done, done']

/-- One level deeper there must be a level left. -/
theorem deeper (room : 1 < c.depth)
    (inside : ∀ d : Cursor, d.rest = c.rest → d.depth + 1 = c.depth → Gives r d a rest) :
    Gives (Reader.deeper r) c a rest := by
  have below : c.depth - 1 + 1 = c.depth := Nat.sub_add_cancel (Nat.le_of_lt room)
  obtain ⟨d, done, left, depth⟩ := inside { c with depth := c.depth - 1 } rfl below
  refine ⟨{ d with depth := d.depth + 1 }, ?_, left, by rw [depth]; exact below⟩
  rw [Reader.deeper, if_neg (Nat.not_le.mpr room), done]

end Gives

section Characters

variable {ch : Char}

theorem gives_remaining (c : Cursor) : Gives remaining c c.rest.length c.rest := ⟨c, rfl, rfl, rfl⟩

theorem rest_step (h : c.rest = ch :: rest) : c.step.rest = rest ∧ c.step.depth = c.depth := by
  rw [Cursor.step, h]
  dsimp only
  split <;> exact ⟨rfl, rfl⟩

theorem gives_skip (h : c.rest = ch :: rest) : Gives skip c () rest :=
  ⟨c.step, rfl, rest_step h⟩

/-- Where the next character is no blank, none are skipped. -/
theorem gives_token (h : c.rest.head?.any isJsonBlank = false) : Gives token? c c.rest.head? c.rest := by
  have still : skipBlanksFrom c c.rest.length = c := by
    cases c.rest.length with
    | zero => rfl
    | succ n => rw [skipBlanksFrom, h, if_neg Bool.false_ne_true]
  refine ⟨c, ?_, rfl, rfl⟩
  change EStateM.bind skipBlanks (fun _ => peek?) c = _
  rw [EStateM.bind, skipBlanks, still]
  rfl

/-- The next character, which is no blank, as a token and what is done then. -/
theorem Gives.token {f : Option Char → Reader β} {b : β} {rest' : List Char} (h : c.rest = ch :: rest)
    (plain : isJsonBlank ch = false)
    (next : ∀ d : Cursor, d.rest = ch :: rest → d.depth = c.depth → Gives (f (some ch)) d b rest') :
    Gives (token? >>= f) c b rest' := by
  have head : c.rest.head? = some ch := by rw [h, List.head?_cons]
  have found := gives_token (c := c) (by rw [head, Option.any_some, plain])
  rw [head, h] at found
  exact found.bind next

theorem Gives.valueStart {f : Char → Reader β} {b : β} {rest' : List Char} (h : c.rest = ch :: rest)
    (plain : isJsonBlank ch = false)
    (next : ∀ d : Cursor, d.rest = ch :: rest → d.depth = c.depth → Gives (f ch) d b rest') :
    Gives (Reader.valueStart >>= f) c b rest' := by
  have start : Gives Reader.valueStart c ch (ch :: rest) :=
    Gives.token h plain fun d left _ => left ▸ pure ch d
  exact start.bind next

theorem Gives.skip {f : Unit → Reader β} {b : β} {rest' : List Char} (h : c.rest = ch :: rest)
    (next : ∀ d : Cursor, d.rest = rest → d.depth = c.depth → Gives (f ()) d b rest') :
    Gives (Reader.skip >>= f) c b rest' := (gives_skip h).bind next

/-- What stands between brackets is read one level further in. -/
theorem Gives.bracketed {r : Reader α} {a : α} {close : Reader Unit} {inner rest' : List Char}
    (h : c.rest = ch :: rest) (room : 1 < c.depth)
    (inside : ∀ d : Cursor, d.rest = rest → d.depth + 1 = c.depth → Gives r d a inner)
    (closes : ∀ d : Cursor, d.rest = inner → Gives close d () rest') :
    Gives (Reader.placed (Reader.closedBy (Reader.deeper (do Reader.skip; r)) close)) c a rest' := by
  refine Gives.placed (Gives.closedBy (Gives.deeper room fun d here below => ?_)
    fun d left _ => closes d left)
  exact Gives.skip (here.trans h) fun e left depth => inside e left (depth ▸ below)

theorem Gives.peek {f : Option Char → Reader β} {b : β} {rest' : List Char}
    (next : Gives (f c.rest.head?) c b rest') : Gives (peek? >>= f) c b rest' := next

theorem gives_word (cs : List Char) (h : c.rest = cs ++ rest) : Gives (word cs) c () rest := by
  induction cs generalizing c with
  | nil => exact ⟨c, rfl, h, rfl⟩
  | cons ch more ih =>
    refine Gives.peek ?_
    rw [h, List.cons_append, List.head?_cons]
    dsimp only
    rw [if_pos rfl]
    exact Gives.skip h fun d left _ => ih left

end Characters

end ScreenNavigation.Json.Reader
