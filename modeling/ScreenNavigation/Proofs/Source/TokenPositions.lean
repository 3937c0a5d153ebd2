import ScreenNavigation.Proofs.Source.SpelledTokens

/-! Where in a text a token stands. The scanner arrives at it behind the lexemes of the tokens before it,
and what it reads from there are the tokens behind. -/
namespace ScreenNavigation.Source

open Text

/-- The scanner takes the lexemes off the front of the first text and goes on with the second. -/
inductive Takes : List Char → List Lexeme → List Char → Prop where
  | here (s : List Char) : Takes s [] s
  | blank {s rest t : List Char} {ls : List Lexeme} (skipped : gap s = .blank rest)
      (behind : Takes rest ls t) : Takes s ls t
  | documentation {s rest t text : List Char} {inner : Bool} {ls : List Lexeme}
      (found : gap s = .documentation inner text rest) (behind : Takes rest ls t) :
      Takes s (documentation inner text ++ ls) t
  | lexeme {s rest t : List Char} {l : Lexeme} {ls : List Lexeme} (stopped : gap s = .nothing)
      (found : lexeme? s = some (l, rest)) (behind : Takes rest ls t) : Takes s (l :: ls) t

section Cutting

/-- Whole groups around a token that is no group are whole on both sides of it. -/
theorem Groups.cut {ls : List Lexeme} {before after : List Token} {t : Token}
    (h : Groups ls (before ++ t :: after)) (single : ∀ d inner, t ≠ .group d inner) :
    ∃ fronts backs, ls = fronts ++ .token t :: backs ∧ Groups fronts before ∧ Groups backs after := by
  generalize whole : before ++ t :: after = ts at h
  induction h generalizing before with
  | nil => simp at whole
  | @token ls ts first behind ih =>
    cases before with
    | nil =>
      cases whole
      exact ⟨[], ls, rfl, .nil, behind⟩
    | cons first' before =>
      cases whole
      obtain ⟨fronts, backs, rfl, front, back⟩ := ih rfl
      exact ⟨.token first :: fronts, backs, rfl, .token first front, back⟩
  | @group inside ls inner ts d content behind _ ih =>
    cases before with
    | nil =>
      cases whole
      exact absurd rfl (single d inner)
    | cons first' before =>
      cases whole
      obtain ⟨fronts, backs, rfl, front, back⟩ := ih rfl
      exact ⟨.opened d :: inside ++ .closed d :: fronts, backs, by simp, .group d content front, back⟩

/-- A text that starts with a mark has no gap in front of it. -/
private theorem gap_of_startsMark {s : List Char} (h : startsMark s = true) : gap s = .nothing := by
  have marks : "~!@#$%^&*-=+|;:,<.>/?'".toList.all (!isScanBlank ·) = true := by decide
  rw [startsMark, Bool.and_eq_true, Bool.not_eq_true'] at h
  obtain ⟨first, plain⟩ := h
  unfold gap
  split
  all_goals first | exact absurd (show true = false from plain) Bool.noConfusion | skip
  · rfl
  · rename_i c rest _ _ _ _ _ _ _ _ _
    rw [List.head?_cons, Option.any_some, isMarkCharacter] at first
    have visible : isScanBlank c = false := by
      simpa using List.all_eq_true.mp marks c (List.contains_iff_mem.mp first)
    rw [visible, if_neg Bool.false_ne_true]

private theorem lexemes_of_startsMark {s : List Char} {fuel : Nat} {l : Lexeme} {ls : List Lexeme}
    (marked : startsMark s = true) (h : lexemes s fuel = some (l :: ls)) :
    ∃ rest fuel', lexeme? s = some (l, rest) ∧ lexemes rest fuel' = some ls := by
  cases fuel with
  | zero =>
    rw [lexemes] at h
    split at h
    · cases h
    · cases h
  | succ fuel =>
    rw [lexemes, gap_of_startsMark marked] at h
    dsimp only at h
    split at h
    · cases h
    · split at h
      · rename_i rest found
        obtain ⟨more, read, whole⟩ := Option.map_eq_some_iff.mp h
        cases whole
        exact ⟨rest, fuel, found, read⟩
      · cases h

/-- No colon stands in front of a word. -/
theorem Reads.head_ne_colon {s : List Char} {w : String} {ts : List Token} (h : Reads s (.word w :: ts)) :
    s.head? ≠ some ':' := by
  intro colon
  obtain ⟨more, rfl⟩ := List.head?_eq_some_iff.mp colon
  have marked : startsMark (':' :: more) = true := by
    simp [startsMark, startsComment, show isMarkCharacter ':' = true by decide]
  obtain ⟨fuel, ls, read, groups⟩ := h
  cases groups_of_grouped groups with
  | token t behind =>
    obtain ⟨rest, _, found, _⟩ := lexemes_of_startsMark marked read
    obtain ⟨spelled, text⟩ := lexeme?_word found
    obtain ⟨c, body, word⟩ := List.exists_cons_of_ne_nil text.ne_nil
    have first : isSeparator c = false := text.not_separator c (by rw [word]; exact List.mem_cons_self)
    rw [word] at spelled
    cases spelled
    exact absurd first (by decide)

end Cutting

end ScreenNavigation.Source
