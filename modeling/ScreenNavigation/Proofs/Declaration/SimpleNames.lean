import ScreenNavigation.Declaration.Screen
import ScreenNavigation.Proofs.Naming.BuilderNames
import ScreenNavigation.Proofs.Source.PathTokens
import ScreenNavigation.Proofs.Source.Scanning

/-! The simple names of accepted paths. They are cut out of the text, not out of the path, and agree with
its last word where no comment or hidden character can stand. -/
namespace ScreenNavigation.Declaration

open Naming Source Text

/-- What stands behind the last pair of colons. -/
def lastSegment (s : List Char) : List Char := (beforeColons s.reverse).reverse

theorem simpleName_eq (path : String) :
    simpleName path = String.ofList (trimBlanks (lastSegment (front path.toList))) := rfl

section Colons

variable {s t : List Char}

private theorem beforeColons_cons {c : Char} (h : c ≠ ':' ∨ s.head? ≠ some ':') :
    beforeColons (c :: s) = c :: beforeColons s := by
  rw [beforeColons]
  rintro rest rfl rfl
  simp at h

private theorem beforeColons_append_left (h : ∀ c ∈ s, c ≠ ':') (t : List Char) :
    beforeColons (s ++ t) = s ++ beforeColons t := by
  induction s with
  | nil => rfl
  | cons c rest ih =>
    rw [List.cons_append, beforeColons_cons (.inl (h c List.mem_cons_self)),
      ih fun d hd => h d (List.mem_cons_of_mem _ hd), List.cons_append]

private theorem beforeColons_eq_self (h : ∀ c ∈ s, c ≠ ':') : beforeColons s = s := by
  have whole := beforeColons_append_left h []
  rwa [List.append_nil, beforeColons, List.append_nil] at whole

/-- Plain characters behind a text count unless colons end it earlier. -/
private theorem beforeColons_append_right (h : ∀ c ∈ t, c ≠ ':') (s : List Char) :
    beforeColons (s ++ t) = beforeColons s ∨ beforeColons (s ++ t) = beforeColons s ++ t := by
  induction s with
  | nil => exact .inr (beforeColons_eq_self h)
  | cons c rest ih =>
    by_cases colons : c = ':' ∧ rest.head? = some ':'
    · obtain ⟨rfl, second⟩ := colons
      obtain ⟨more, rfl⟩ := List.head?_eq_some_iff.mp second
      exact .inl rfl
    · have alone : c ≠ ':' ∨ rest.head? ≠ some ':' := Decidable.not_and_iff_or_not.mp colons
      have apart : c ≠ ':' ∨ (rest ++ t).head? ≠ some ':' := by
        refine alone.imp_right fun first => ?_
        cases rest with
        | nil =>
          intro colon
          obtain ⟨more, rfl⟩ := List.head?_eq_some_iff.mp colon
          exact h ':' List.mem_cons_self rfl
        | cons d more => exact first
      rw [List.cons_append, beforeColons_cons apart, beforeColons_cons alone]
      exact ih.imp (congrArg (c :: ·)) (congrArg (c :: ·))

private theorem beforeColons_colons (h : s.getLast? ≠ some ':') (t : List Char) :
    beforeColons (s ++ ':' :: ':' :: t) = beforeColons s := by
  induction s with
  | nil => rfl
  | cons c rest ih =>
    cases rest with
    | nil =>
      have plain : c ≠ ':' := by simpa using h
      rw [List.singleton_append, beforeColons_cons (.inl plain), beforeColons_cons (.inl plain)]
      rfl
    | cons d more =>
      rw [List.getLast?_cons_cons] at h
      by_cases colons : c = ':' ∧ d = ':'
      · obtain ⟨rfl, rfl⟩ := colons
        rfl
      · have alone : c ≠ ':' ∨ (d :: more).head? ≠ some ':' := by
          simpa using Decidable.not_and_iff_or_not.mp colons
        rw [List.cons_append, beforeColons_cons alone, beforeColons_cons (by simpa using alone), ih h]

theorem lastSegment_colons (h : t.head? ≠ some ':') (s : List Char) :
    lastSegment (s ++ ':' :: ':' :: t) = lastSegment t := by
  rw [lastSegment, List.reverse_append, List.reverse_cons, List.reverse_cons, List.append_assoc,
    List.append_assoc, List.singleton_append, List.singleton_append,
    beforeColons_colons (by rwa [List.getLast?_reverse]), lastSegment]

theorem lastSegment_eq_self (h : ∀ c ∈ s, c ≠ ':') : lastSegment s = s := by
  rw [lastSegment, beforeColons_eq_self fun c hc => h c (List.mem_reverse.mp hc), List.reverse_reverse]

/-- Blanks around a text do not change what is left of its last segment. -/
theorem trimBlanks_lastSegment {gaps more : List Char} (hg : ∀ c ∈ gaps, isBlank c = true)
    (hm : ∀ c ∈ more, isBlank c = true) (s : List Char) :
    trimBlanks (lastSegment (gaps ++ s ++ more)) = trimBlanks (lastSegment s) := by
  have plain : ∀ {cs : List Char}, (∀ c ∈ cs, isBlank c = true) → ∀ c ∈ cs.reverse, c ≠ ':' := by
    rintro cs blanks c hc rfl
    exact absurd (blanks ':' (List.mem_reverse.mp hc)) (by decide)
  rw [lastSegment, List.reverse_append, List.reverse_append, beforeColons_append_left (plain hm),
    List.reverse_append, List.reverse_reverse, trimBlanks_append_right hm, lastSegment]
  rcases beforeColons_append_right (plain hg) s.reverse with cut | kept
  · rw [cut]
  · rw [kept, List.reverse_append, List.reverse_reverse, trimBlanks_append_left hg]

end Colons

section Reading

variable {s : List Char} {ts : List Token}

private theorem not_blank_of_startsMark {c : Char} {rest : List Char}
    (h : startsMark (c :: rest) = true) : isBlank c = false := by
  have marks : "~!@#$%^&*-=+|;:,<.>/?'".toList.all (!isBlank ·) = true := by decide
  rw [startsMark, Bool.and_eq_true, List.head?_cons, Option.any_some, isMarkCharacter] at h
  simpa using List.all_eq_true.mp marks c (List.contains_iff_mem.mp h.1)

/-- Two colons of a path stand together. -/
private theorem exists_reads_colons (h : Reads s ts) (clear : IsClear s)
    (apart : Parser.startsWith "::" ts = true) :
    ∃ gaps after, s = gaps ++ ':' :: ':' :: after ∧ (∀ c ∈ gaps, isBlank c = true) ∧ IsClear after ∧
      Reads after (ts.drop 2) := by
  obtain ⟨joint, tokens⟩ := Parser.exists_of_startsWith_colons apart
  rw [tokens] at h
  obtain ⟨gaps, after, rfl, blanks, joins, still, later⟩ := h.mark clear
  obtain ⟨more, rest, rfl, blanks', _, still', later'⟩ := later.mark (still.tail (by decide))
  cases more with
  | nil => exact ⟨gaps, rest, rfl, blanks, still'.tail (by decide), later'⟩
  | cons b more =>
    have blank := blanks' b List.mem_cons_self
    rw [not_blank_of_startsMark joins.symm] at blank
    cases blank

private theorem front_blank (h : Reads s ts) (clear : IsClear s)
    (starts : Parser.startsWith "<" ts = true) : ∀ c ∈ front s, isBlank c = true := by
  obtain ⟨joint, rest, rfl⟩ := Parser.exists_of_startsWith_angle starts
  obtain ⟨gaps, after, rfl, blanks, _⟩ := h.mark clear
  rwa [front_append fun c hc => .inr (blanks c hc), front, List.takeWhile_cons_of_neg (by decide),
    List.append_nil]

private theorem ne_colon_of_isBlank {c : Char} (h : isBlank c = true) : c ≠ ':' := by
  rintro rfl
  exact absurd h (by decide)

private theorem ne_colon_of_not_separator {c : Char} (h : isSeparator c = false) : c ≠ ':' := by
  rintro rfl
  exact absurd h (by decide)

private theorem not_blank_of_not_separator {c : Char} (h : isSeparator c = false) :
    isBlank c = false := by
  rw [isSeparator, Bool.or_eq_false_iff, Bool.or_eq_false_iff] at h
  exact h.1.1

/-- The last segment of a word between blanks is the word. -/
private theorem trimmed_word {gaps word more : List Char} (hg : ∀ c ∈ gaps, isBlank c = true)
    (text : IsWordText word) (hm : ∀ c ∈ more, isBlank c = true) :
    trimBlanks (lastSegment (gaps ++ word ++ more)) = word := by
  rw [trimBlanks_lastSegment hg hm,
    lastSegment_eq_self fun c hc => ne_colon_of_not_separator (text.not_separator c hc),
    trimBlanks_eq_self fun c hc => not_blank_of_not_separator (text.not_separator c hc)]

private theorem head_ne_colon {gaps word : List Char} (hg : ∀ c ∈ gaps, isBlank c = true)
    (text : IsWordText word) (more : List Char) : (gaps ++ word ++ more).head? ≠ some ':' := by
  cases gaps with
  | nil =>
    cases word with
    | nil => exact absurd rfl text.ne_nil
    | cons c rest =>
      simpa using ne_colon_of_not_separator (text.not_separator c List.mem_cons_self)
  | cons b rest => simpa using ne_colon_of_isBlank (hg b List.mem_cons_self)

private theorem front_word {gaps word : List Char} (hg : ∀ c ∈ gaps, isBlank c = true)
    (text : IsWordText word) (more : List Char) :
    front (gaps ++ word ++ more) = gaps ++ word ++ front more := by
  refine front_append (fun c hc => ?_) more
  rcases List.mem_append.mp hc with gap | inside
  · exact .inr (hg c gap)
  · exact .inl (text.not_separator c inside)

private theorem front_colons {gaps : List Char} (hg : ∀ c ∈ gaps, isBlank c = true)
    (more : List Char) : front (gaps ++ ':' :: ':' :: more) = gaps ++ ':' :: ':' :: front more := by
  rw [front_append fun c hc => .inr (hg c hc), front_cons (by decide), front_cons (by decide)]

/-- The name in front of the first arguments among the segments, or of the last segment. Arguments behind
two colons have no name in front of them. -/
def frontName : List Segment → String
  | [] => ""
  | .mk _ (.angle true ..) :: _ => ""
  | .mk _ .none :: a :: more => frontName (a :: more)
  | .mk w _ :: _ => w

/-- The last segment of an accepted text in front of its arguments is the front name of the path. -/
private theorem last_word {segments : List Segment} (path : Parser.Segmented ts segments) (h : Reads s ts)
    (clear : IsClear s) : (front s).head? ≠ some ':' ∧
      trimBlanks (lastSegment (front s)) = (frontName segments).toList ∧
        (frontName segments = "" ∨ IsWordText (frontName segments).toList) := by
  induction path generalizing s with
  | last w =>
    obtain ⟨gaps, after, rfl, blanks, text, still, later⟩ := h.word clear
    have behind : ∀ c ∈ front after, isBlank c = true := fun c hc =>
      later.nil still c ((List.takeWhile_prefix _).subset hc)
    rw [front_word blanks text, trimmed_word blanks text behind]
    exact ⟨head_ne_colon blanks text _, rfl, .inr text⟩
  | @arguments w turbofish items trailing ts starts more =>
    obtain ⟨gaps, after, rfl, blanks, text, still, later⟩ := h.word clear
    rw [front_word blanks text]
    refine ⟨head_ne_colon blanks text _, ?_⟩
    cases turbofish with
    | false =>
      have angle : Parser.startsWith "<" ts = true := starts
      rw [trimmed_word blanks text (front_blank later still angle)]
      exact ⟨rfl, .inr text⟩
    | true =>
      obtain ⟨apart, angle⟩ : _ ∧ _ := starts
      obtain ⟨gaps', rest, rfl, blanks', still', later'⟩ := exists_reads_colons later still apart
      have behind := front_blank later' still' angle
      have first : (front rest).head? ≠ some ':' := fun colon =>
        ne_colon_of_isBlank (behind ':' (List.mem_of_mem_head? colon)) rfl
      rw [front_colons blanks', ← List.append_assoc, lastSegment_colons first,
        lastSegment_eq_self fun c hc => ne_colon_of_isBlank (behind c hc)]
      have none := trimBlanks_append_left behind []
      rw [List.append_nil] at none
      exact ⟨none, .inl rfl⟩
  | @more w ts segments apart path' ih =>
    obtain ⟨gaps, after, rfl, blanks, text, still, later⟩ := h.word clear
    obtain ⟨gaps', rest, rfl, blanks', still', later'⟩ := exists_reads_colons later still apart
    obtain ⟨first, last⟩ := ih later' still'
    have name : frontName (.mk w .none :: segments) = frontName segments := by
      obtain ⟨a, more, rfl⟩ := List.exists_cons_of_ne_nil path'.ne_nil
      rfl
    rw [front_word blanks text, front_colons blanks', ← List.append_assoc, lastSegment_colons first, name]
    exact ⟨by rw [List.append_assoc]; exact head_ne_colon blanks text _, last⟩

end Reading

private theorem reads_of_scan {text : String} {ts : List Token} (h : scan text = some ts)
    (clear : IsClear text.toList) : Reads text.toList ts := by
  have unmarked : ¬ text.toList.head?.any (·.toNat == 0xfeff) = true := by
    intro marked
    cases spelled : text.toList with
    | nil => simp [spelled] at marked
    | cons c rest =>
      have point : c.toNat = 0xfeff := by simpa [spelled] using marked
      have plain : c ≠ '<' := by
        rintro rfl
        cases point
      have stray := clear c (by rw [spelled, front_cons plain]; exact List.mem_cons_self)
      simp [isStray, point] at stray
  obtain ⟨ls, read, groups⟩ := Option.bind_eq_some_iff.mp h
  rw [if_neg unmarked] at read
  exact ⟨_, ls, read, groups⟩

/-- A clear text that is a path has its front name as its simple name: a word, or nothing. -/
theorem simpleName_eq_frontName {angles : Nat → Parser Arguments} (marks : Parser.MarksTurbofish angles)
    {text : String} {path : Path} (h : Path.parseBy angles text = .ok path) (clear : IsClear text.toList) :
    simpleName text = frontName path.segments ∧
      (frontName path.segments = "" ∨ IsWordText (frontName path.segments).toList) := by
  rw [Path.parseBy] at h
  split at h
  · rename_i ts scanned
    have reads := reads_of_scan scanned clear
    have last : trimBlanks (lastSegment (front text.toList)) = (frontName path.segments).toList ∧
        (frontName path.segments = "" ∨ IsWordText (frontName path.segments).toList) := by
      obtain ⟨t, whole, segments | ⟨leading, segments⟩⟩ := Parser.readsSegments_of_runAll h
      · exact (last_word (segments.segmented marks whole) reads clear).2
      · obtain ⟨gaps, after, same, blanks, still, later⟩ := exists_reads_colons reads clear leading
        obtain ⟨first, last⟩ := last_word (segments.segmented marks whole) later still
        rwa [same, front_colons blanks, lastSegment_colons first]
    rw [simpleName_eq, last.1, String.ofList_toList]
    exact ⟨rfl, last.2⟩
  · cases h

private theorem hasIdentifierShape_builder {name : List Char} (h : hasIdentifierShape name = true) :
    hasIdentifierShape (name ++ "Builder".toList) = true := by
  cases name with
  | nil => cases h
  | cons c rest =>
    rw [hasIdentifierShape, Bool.and_eq_true] at h
    rw [List.cons_append, hasIdentifierShape, List.all_append, h.1, h.2]
    decide

/-- The word builder at its end keeps a name from being one of those without a raw form. -/
theorem builderName_isLegal_of_word {name : String} (h : name = "" ∨ IsWordText name.toList) :
    isLegal (name ++ "Builder") = true := by
  obtain rfl | text := h
  · decide
  · generalize spelled : name.toList = cs at text
    cases text with
    | plain shape =>
      refine isLegal_of_shape ?_
      rw [String.toList_append, spelled]
      exact hasIdentifierShape_builder shape
    | @raw body shape =>
      have marked : name = "r#" ++ String.ofList body := String.toList_inj.mp (by
        rw [spelled, String.toList_append, String.toList_ofList (l := body)]
        rfl)
      have whole : hasIdentifierShape (String.ofList body ++ "Builder").toList = true := by
        rw [String.toList_append, String.toList_ofList (l := body)]
        exact hasIdentifierShape_builder shape
      have escapable : rawlessWords.contains (String.ofList body ++ "Builder") = false := by
        by_contra listed
        rw [Bool.not_eq_false, List.contains_iff_mem] at listed
        exact builderName_ne_foreign _
          (isForeign_of_keyword _ (rawlessWords_subset listed)) rfl
      rw [marked, String.append_assoc, isLegal_raw, whole, escapable]
      rfl

private theorem simpleName_trimBlanks (s : List Char) :
    trimBlanks (lastSegment (front (trimBlanks s))) = trimBlanks (lastSegment (front s)) := by
  obtain ⟨before, behind, same, hb, ha⟩ := exists_eq_append_trimBlanks s
  generalize trimBlanks s = t at same
  subst same
  rw [List.append_assoc, front_append (fun c hc => .inr (hb c hc)), front, front,
    List.takeWhile_append]
  split
  · rename_i same
    have whole := (List.takeWhile_prefix (· != '<')).eq_of_length same
    have blanks := front_append (fun c hc => .inr (ha c hc)) []
    rw [List.append_nil, front, front, List.takeWhile_nil, List.append_nil] at blanks
    rw [whole, blanks, ← List.append_assoc, trimBlanks_lastSegment hb ha]
  · have plain := trimBlanks_lastSegment hb (List.forall_mem_nil _) (t.takeWhile (· != '<'))
    rw [← plain, List.append_nil]

/-- An identity with a clear text has the front name of its path as its simple name: a word, or nothing. -/
theorem simpleName_of_parseBy {angles : Nat → Parser Arguments} (marks : Parser.MarksTurbofish angles)
    {raw : String} {identity : TypePath} (h : TypePath.parseBy angles raw = .ok identity)
    (clear : IsClear raw.toList) : simpleName identity.text = frontName identity.path.segments ∧
      (frontName identity.path.segments = "" ∨ IsWordText (frontName identity.path.segments).toList) := by
  obtain ⟨parsed, trimmed⟩ := TypePath.parseBy_ok h
  have same : simpleName identity.text = simpleName raw := by
    rw [trimmed, simpleName_eq, simpleName_eq, String.toList_ofList (l := trimBlanks raw.toList),
      simpleName_trimBlanks]
  rw [same]
  exact simpleName_eq_frontName marks parsed clear

/-- The builder of a screen has a legal name whenever the text of its identity is clear. -/
theorem builderName_isLegal {raw : String} {screen : Screen}
    (h : TypePath.parse raw = .ok screen.identity) (clear : IsClear raw.toList) :
    isLegal screen.builderName = true := by
  obtain ⟨same, word⟩ := simpleName_of_parseBy Parser.marksTurbofish_angleArguments h clear
  rw [Screen.builderName, Screen.simpleName, same]
  exact builderName_isLegal_of_word word

end ScreenNavigation.Declaration
