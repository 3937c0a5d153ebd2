import Mathlib.Data.List.Basic
import ScreenNavigation.Naming.Legality
import ScreenNavigation.Proofs.Text.Blanks
import ScreenNavigation.Source.Scan

/-! What the scanner has read when it gives words and marks. In front of the first angle bracket a text
without comments and hidden characters is nothing but its tokens with blanks between them. -/
namespace ScreenNavigation.Source

open Text

/-- The text in front of the first angle bracket. -/
def front (s : List Char) : List Char := s.takeWhile (· != '<')

/-- Characters that may begin a comment, or that the scanner skips although they are no blanks. -/
def isStray (c : Char) : Bool :=
  c == '/' || c.toNat == 0x200e || c.toNat == 0x200f || c.toNat == 0xfeff

/-- No comment and no hidden character stands in front of the first angle bracket. -/
def IsClear (s : List Char) : Prop := ∀ c ∈ front s, isStray c = false

/-- The text of a word, maybe a raw one. -/
inductive IsWordText : List Char → Prop where
  | plain {name : List Char} (shape : Naming.hasIdentifierShape name = true) : IsWordText name
  | raw {name : List Char} (shape : Naming.hasIdentifierShape name = true) :
      IsWordText ('r' :: '#' :: name)

/-- Blanks and the marks of paths are no part of a word. -/
def isSeparator (c : Char) : Bool := isBlank c || c == ':' || c == '<'

theorem isSeparator_eq_false {c : Char} (h : isIdentifierStart c = true ∨ isIdentifierContinue c = true) :
    isSeparator c = false := by
  have colon : isIdentifierStart ':' = false ∧ isIdentifierContinue ':' = false := by decide
  have angle : isIdentifierStart '<' = false ∧ isIdentifierContinue '<' = false := by decide
  have outside : ¬ (isIdentifierStart c = false ∧ isIdentifierContinue c = false) := by
    rintro ⟨start, follow⟩
    simp [start, follow] at h
  by_contra separates
  simp only [isSeparator, Bool.not_eq_false, Bool.or_eq_true, beq_iff_eq] at separates
  obtain (blank | rfl) | rfl := separates
  · exact outside (not_identifier_of_isBlank blank)
  · exact outside colon
  · exact outside angle

theorem IsWordText.ne_nil {cs : List Char} (h : IsWordText cs) : cs ≠ [] := by
  rintro rfl
  cases h with
  | plain shape => cases shape

theorem IsWordText.not_separator {cs : List Char} (h : IsWordText cs) :
    ∀ c ∈ cs, isSeparator c = false := by
  have shaped : ∀ name, Naming.hasIdentifierShape name = true → ∀ c ∈ name, isSeparator c = false := by
    intro name shape c hc
    cases name with
    | nil => cases hc
    | cons first rest =>
      obtain ⟨start, follow⟩ := Bool.and_eq_true _ _ ▸ shape
      rcases List.mem_cons.mp hc with rfl | behind
      · exact isSeparator_eq_false (.inl start)
      · exact isSeparator_eq_false (.inr (List.all_eq_true.mp follow c behind))
  cases h with
  | plain shape => exact shaped _ shape
  | raw shape =>
    intro c hc
    rcases List.mem_cons.mp hc with rfl | hash
    · decide
    · rcases List.mem_cons.mp hash with rfl | inside
      · decide
      · exact shaped _ shape c inside

theorem scanName_spec {s name rest : List Char} (h : scanName s = some (name, rest)) :
    s = name ++ rest ∧ Naming.hasIdentifierShape name = true := by
  cases s with
  | nil => cases h
  | cons c more =>
    rw [scanName] at h
    split at h
    · rename_i start
      cases h
      refine ⟨by rw [List.cons_append, List.takeWhile_append_dropWhile], ?_⟩
      rw [Naming.hasIdentifierShape, start, Bool.true_and]
      exact List.all_takeWhile
    · cases h

theorem scanWord_spec {s word rest : List Char} (h : scanWord s = some (word, rest)) :
    s = word ++ rest ∧ IsWordText word := by
  unfold scanWord at h
  split at h
  · cases h
  · split at h
    · rename_i more
      obtain ⟨⟨name, after⟩, found, kept⟩ := Option.bind_eq_some_iff.mp h
      dsimp only at kept
      split at kept
      · cases kept
      · cases kept
        obtain ⟨rfl, shape⟩ := scanName_spec found
        exact ⟨rfl, .raw shape⟩
    · obtain ⟨same, shape⟩ := scanName_spec h
      exact ⟨same, .plain shape⟩

private theorem bracket?_ne_token (c : Char) (t : Token) : bracket? c ≠ some (.token t) := by
  unfold bracket?
  split <;> simp

private theorem lexeme?_token {s rest : List Char} {t : Token}
    (h : lexeme? s = some (.token t, rest)) :
    (∃ text, t = .literal text) ∨ (∃ text, t = .lifetime text) ∨
      (∃ c, s = c :: rest ∧ t = .mark c (startsMark rest)) ∨
      ∃ word, s = word ++ rest ∧ IsWordText word ∧ t = .word (String.ofList word) := by
  unfold lexeme? at h
  split at h
  · cases h
  · rename_i c more
    split at h
    · rename_i b bracket
      cases h
      exact absurd bracket (bracket?_ne_token c t)
    · split at h
      · cases h
        exact .inl ⟨_, rfl⟩
      · split at h
        · cases h
          exact .inr (.inl ⟨_, rfl⟩)
        · split at h
          · cases h
            exact .inr (.inr (.inl ⟨c, rfl, rfl⟩))
          · obtain ⟨⟨word, after⟩, found, same⟩ := Option.map_eq_some_iff.mp h
            cases same
            obtain ⟨spelled, text⟩ := scanWord_spec found
            exact .inr (.inr (.inr ⟨word, spelled, text, rfl⟩))

theorem lexeme?_word {s rest : List Char} {w : String}
    (h : lexeme? s = some (.token (.word w), rest)) :
    s = w.toList ++ rest ∧ IsWordText w.toList := by
  obtain ⟨_, other⟩ | ⟨_, other⟩ | ⟨_, _, other⟩ | ⟨word, spelled, text, same⟩ := lexeme?_token h
  · cases other
  · cases other
  · cases other
  · cases same
    rw [String.toList_ofList]
    exact ⟨spelled, text⟩

theorem lexeme?_mark {s rest : List Char} {c : Char} {joint : Bool}
    (h : lexeme? s = some (.token (.mark c joint), rest)) :
    s = c :: rest ∧ joint = startsMark rest := by
  obtain ⟨_, other⟩ | ⟨_, other⟩ | ⟨d, spelled, same⟩ | ⟨_, _, _, other⟩ := lexeme?_token h
  · cases other
  · cases other
  · cases same
    exact ⟨spelled, rfl⟩
  · cases other

section Clear

variable {s : List Char}

theorem front_cons {c : Char} (h : c ≠ '<') (s : List Char) : front (c :: s) = c :: front s := by
  rw [front, List.takeWhile_cons_of_pos (by simpa using h)]
  rfl

theorem IsClear.tail {c : Char} (h : IsClear (c :: s)) (plain : c ≠ '<') : IsClear s := by
  intro d hd
  refine h d ?_
  rw [front_cons plain]
  exact List.mem_cons_of_mem _ hd

theorem front_append {cs : List Char} (h : ∀ c ∈ cs, isSeparator c = false ∨ isBlank c = true)
    (s : List Char) : front (cs ++ s) = cs ++ front s := by
  induction cs with
  | nil => rfl
  | cons c rest ih =>
    have plain : c ≠ '<' := by
      rintro rfl
      exact absurd (h '<' List.mem_cons_self) (by decide)
    rw [List.cons_append, front_cons plain, ih fun d hd => h d (List.mem_cons_of_mem _ hd),
      List.cons_append]

theorem IsClear.append_right {cs : List Char} (h : IsClear (cs ++ s))
    (plain : ∀ c ∈ cs, isSeparator c = false ∨ isBlank c = true) : IsClear s := by
  intro d hd
  refine h d ?_
  rw [front_append plain]
  exact List.mem_append_right _ hd

/-- Gaps in a clear text are blanks. -/
theorem IsClear.gap_eq (h : IsClear s) :
    (∃ c rest, s = c :: rest ∧ isBlank c = true ∧ gap s = .blank rest) ∨ gap s = .nothing := by
  have noSlash : ∀ rest, s ≠ '/' :: rest := by
    rintro rest rfl
    have stray := h '/' (by rw [front_cons (by decide)]; exact List.mem_cons_self)
    exact absurd stray (by decide)
  unfold gap
  split
  all_goals first | exact absurd rfl (noSlash _) | skip
  · exact .inr rfl
  · rename_i c rest _ _ _ _ _ _ _ _ _
    split
    · rename_i skipped
      have plain : c ≠ '<' := by
        rintro rfl
        exact absurd skipped (by decide)
      have stray := h c (by rw [front_cons plain]; exact List.mem_cons_self)
      refine .inl ⟨c, rest, rfl, ?_, rfl⟩
      simp only [isStray, Bool.or_eq_false_iff] at stray
      simpa [isScanBlank, stray] using skipped
    · exact .inr rfl

end Clear

section Groups

/-- The lexemes are whole groups, and the tokens are what they hold. -/
inductive Groups : List Lexeme → List Token → Prop where
  | nil : Groups [] []
  | token {ls : List Lexeme} {ts : List Token} (t : Token) (behind : Groups ls ts) :
      Groups (.token t :: ls) (t :: ts)
  | group {inside ls : List Lexeme} {inner ts : List Token} (d : Delimiter) (content : Groups inside inner)
      (behind : Groups ls ts) : Groups (.opened d :: inside ++ .closed d :: ls) (.group d inner :: ts)

/-- What the unfinished groups make of the lexemes: they are whole without one, and otherwise end the
innermost one first. -/
private theorem groups_of_grouped_frames (n : Nat) : ∀ {ls : List Lexeme}, ls.length = n →
    ∀ {outer : List (Delimiter × List Token)} {content ts : List Token},
      grouped outer content ls = some ts →
        match outer with
        | [] => ∃ more, Groups ls more ∧ ts = content.reverse ++ more
        | (d, before) :: outer => ∃ inside rest inner, ls = inside ++ .closed d :: rest ∧
            Groups inside inner ∧
            grouped outer (.group d (content.reverse ++ inner) :: before) rest = some ts := by
  induction n using Nat.strongRecOn with
  | ind n ih =>
    rintro ls rfl outer content ts h
    cases ls with
    | nil =>
      cases outer with
      | nil =>
        cases h
        exact ⟨[], .nil, (List.append_nil _).symm⟩
      | cons frame outer => cases h
    | cons l rest =>
      cases l with
      | token t =>
        rw [grouped] at h
        have shorter := ih rest.length (Nat.lt_succ_self _) rfl h
        cases outer with
        | nil =>
          obtain ⟨more, whole, rfl⟩ := shorter
          exact ⟨t :: more, .token t whole, by simp⟩
        | cons frame outer =>
          obtain ⟨inside, behind, inner, rfl, whole, later⟩ := shorter
          exact ⟨.token t :: inside, behind, t :: inner, rfl, .token t whole, by simpa using later⟩
      | opened e =>
        rw [grouped] at h
        obtain ⟨inside, behind, inner, rfl, whole, later⟩ := ih rest.length (Nat.lt_succ_self _) rfl h
        have less : behind.length < (Lexeme.opened e :: (inside ++ .closed e :: behind)).length := by
          simp only [List.length_cons, List.length_append]
          omega
        have shorter := ih behind.length less rfl later
        rw [List.reverse_nil, List.nil_append] at shorter
        cases outer with
        | nil =>
          obtain ⟨more, whole', rfl⟩ := shorter
          exact ⟨.group e inner :: more, .group e whole whole', by simp⟩
        | cons frame outer =>
          obtain ⟨inside', behind', inner', rfl, whole', later'⟩ := shorter
          refine ⟨.opened e :: inside ++ .closed e :: inside', behind', .group e inner :: inner', by simp,
            .group e whole whole', by simpa using later'⟩
      | closed e =>
        cases outer with
        | nil => cases h
        | cons frame outer =>
          obtain ⟨d, before⟩ := frame
          rw [grouped] at h
          split at h
          · rename_i closing
            subst closing
            exact ⟨[], rest, [], rfl, .nil, by simpa using h⟩
          · cases h

theorem groups_of_grouped {ls : List Lexeme} {ts : List Token} (h : grouped [] [] ls = some ts) :
    Groups ls ts := by
  obtain ⟨more, whole, rfl⟩ := groups_of_grouped_frames ls.length rfl h
  exact whole

theorem Groups.grouped_append {ls : List Lexeme} {ts : List Token} (h : Groups ls ts)
    (outer : List (Delimiter × List Token)) (content : List Token) (rest : List Lexeme) :
    grouped outer content (ls ++ rest) = grouped outer (ts.reverse ++ content) rest := by
  induction h generalizing outer content rest with
  | nil => rfl
  | token t behind ih =>
    rw [List.cons_append, grouped, ih]
    simp
  | group d content' behind ih ih' =>
    rw [List.append_assoc, List.cons_append, grouped, ih, List.cons_append, grouped, if_pos rfl, ih']
    simp

theorem grouped_eq_some_iff {ls : List Lexeme} {ts : List Token} :
    grouped [] [] ls = some ts ↔ Groups ls ts := by
  refine ⟨groups_of_grouped, fun h => ?_⟩
  have whole := h.grouped_append [] [] []
  rwa [List.append_nil, List.append_nil, grouped, List.reverse_reverse] at whole

end Groups

/-- The scanner reads the tokens from the characters. -/
def Reads (s : List Char) (ts : List Token) : Prop :=
  ∃ fuel ls, lexemes s fuel = some ls ∧ grouped [] [] ls = some ts

/-- Only blanks, or blanks in front of the first lexeme. -/
private theorem lexemes_clear {s : List Char} {fuel : Nat} {ls : List Lexeme} (clear : IsClear s)
    (h : lexemes s fuel = some ls) :
    ∃ gaps rest, s = gaps ++ rest ∧ (∀ c ∈ gaps, isBlank c = true) ∧
      ((ls = [] ∧ rest = []) ∨ ∃ l after fuel' more, ls = l :: more ∧ IsClear rest ∧
        lexeme? rest = some (l, after) ∧ lexemes after fuel' = some more) := by
  induction fuel generalizing s with
  | zero =>
    rw [lexemes] at h
    split at h
    · rename_i empty
      cases h
      exact ⟨[], [], List.isEmpty_iff.mp empty, by simp, .inl ⟨rfl, rfl⟩⟩
    · cases h
  | succ fuel ih =>
    rw [lexemes] at h
    obtain ⟨c, rest, rfl, blank, skipped⟩ | stopped := clear.gap_eq
    · simp only [skipped] at h
      obtain ⟨gaps, more, rfl, blanks, found⟩ := ih (clear.tail (by rintro rfl; cases blank)) h
      refine ⟨c :: gaps, more, rfl, ?_, found⟩
      simpa [blank] using blanks
    · simp only [stopped] at h
      split at h
      · rename_i empty
        cases h
        exact ⟨[], [], List.isEmpty_iff.mp empty, by simp, .inl ⟨rfl, rfl⟩⟩
      · split at h
        · rename_i l after found
          obtain ⟨more, later, same⟩ := Option.map_eq_some_iff.mp h
          exact ⟨[], s, rfl, by simp, .inr ⟨l, after, fuel, more, same.symm, clear, found, later⟩⟩
        · cases h

namespace Reads

variable {s : List Char} {ts : List Token}

theorem nil (h : Reads s []) (clear : IsClear s) : ∀ c ∈ s, isBlank c = true := by
  obtain ⟨fuel, ls, read, groups⟩ := h
  cases groups_of_grouped groups
  obtain ⟨gaps, rest, rfl, blanks, ⟨_, rfl⟩ | ⟨_, _, _, _, other, _⟩⟩ := lexemes_clear clear read
  · simpa using blanks
  · cases other

private theorem cons {t : Token} (h : Reads s (t :: ts)) (clear : IsClear s)
    (single : ∀ d inner, t ≠ .group d inner) :
    ∃ gaps rest after, s = gaps ++ rest ∧ (∀ c ∈ gaps, isBlank c = true) ∧ IsClear rest ∧
      lexeme? rest = some (.token t, after) ∧ Reads after ts := by
  obtain ⟨fuel, ls, read, groups⟩ := h
  cases groups_of_grouped groups with
  | group d content behind => exact absurd rfl (single d _)
  | @token more _ _ behind =>
    have later := grouped_eq_some_iff.mpr behind
    obtain ⟨gaps, rest, spelled, blanks, ⟨other, _⟩ | ⟨l, after, fuel', behind, same, still, found, next⟩⟩ :=
      lexemes_clear clear read
    · cases other
    · cases same
      exact ⟨gaps, rest, after, spelled, blanks, still, found, fuel', more, next, later⟩

theorem word {w : String} (h : Reads s (.word w :: ts)) (clear : IsClear s) :
    ∃ gaps after, s = gaps ++ w.toList ++ after ∧ (∀ c ∈ gaps, isBlank c = true) ∧
      IsWordText w.toList ∧ IsClear after ∧ Reads after ts := by
  obtain ⟨gaps, rest, after, rfl, blanks, still, found, later⟩ := h.cons clear (by simp)
  obtain ⟨rfl, text⟩ := lexeme?_word found
  exact ⟨gaps, after, by rw [List.append_assoc], blanks, text,
    still.append_right fun c hc => .inl (text.not_separator c hc), later⟩

theorem mark {c : Char} {joint : Bool} (h : Reads s (.mark c joint :: ts)) (clear : IsClear s) :
    ∃ gaps after, s = gaps ++ c :: after ∧ (∀ c ∈ gaps, isBlank c = true) ∧
      joint = startsMark after ∧ IsClear (c :: after) ∧ Reads after ts := by
  obtain ⟨gaps, rest, after, rfl, blanks, still, found, later⟩ := h.cons clear (by simp)
  obtain ⟨rfl, joins⟩ := lexeme?_mark found
  exact ⟨gaps, after, rfl, blanks, joins, still, later⟩

end Reads

end ScreenNavigation.Source
