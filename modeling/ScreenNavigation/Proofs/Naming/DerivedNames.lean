import ScreenNavigation.Proofs.Naming.SanitizedNames

/-! Constants and modules from any text. A sanitized name, its letters in one case, a closing underscore and a
leading one: no step breaks what the steps before it have made, so an identifier comes out that is no
keyword. Of the spelling nothing is needed, and of the case only that it moves nothing but underscores. -/
namespace ScreenNavigation.Naming

open Text

/-- An identifier of letters of one kind, digits and underscores that is no keyword and more than an
underscore. -/
structure IsPlainWord (isLetter : Char → Bool) (name : String) : Prop where
  legal : isLegal name = true
  characters : ∀ c ∈ name.toList, isLetter c = true ∨ isAsciiDigit c = true ∨ c = '_'
  no_keyword : name ∉ Source.languageKeywords
  ne_underscore : name ≠ "_"

/-- The case of sanitized names: letters change as said and stay in order, underscores may come and go, but
none comes to stand in front. -/
structure IsCasing (change : Char → Char) (casing : List Char → List Char) : Prop where
  letters : ∀ cs, IsSanitized cs → (casing cs).filter (· ≠ '_') = (cs.filter (· ≠ '_')).map change
  first : ∀ cs, IsSanitized cs → (casing cs).head? ≠ some '_'

section Steps

variable (spell casing : List Char → List Char) (s : String)

/-- The constant of a text, from its sanitized name in the case of constants. -/
def constantNameBy : String :=
  let clean := (sanitizedBy spell s).toList
  if clean.isEmpty then "UNNAMED" else String.ofList (guardDigit (casing clean))

/-- The module of a text, from its sanitized name in the case of modules. -/
def moduleNameBy : String :=
  let name := casing (sanitizedBy spell s).toList
  if name.isEmpty then "unnamed"
  else
    let word := String.ofList name
    let free := if keywords.contains word || unescapable.contains word then name ++ ['_'] else name
    String.ofList (guardDigit free)

end Steps

section Words

private theorem reserved_of_capitals : ∀ word ∈ Source.languageKeywords,
    word.toList.any isAsciiLower = true ∨ word = "_" := by decide

private theorem reserved_of_underscore : ∀ word ∈ Source.languageKeywords,
    word.toList.head? = some '_' ∨ word.toList.getLast? = some '_' → word = "_" := by decide

variable {isLetter : Char → Bool}

/-- Letters of one kind, digits and underscores that begin with a letter or a digit. -/
private structure IsCased (isLetter : Char → Bool) (cs : List Char) : Prop where
  filled : cs ≠ []
  first : cs.head? ≠ some '_'
  characters : ∀ c ∈ cs, isLetter c = true ∨ isAsciiDigit c = true ∨ c = '_'

private theorem IsCased.ofCasing {change : Char → Char} {casing : List Char → List Char}
    (h : IsCasing change casing) {cs : List Char} (clean : IsSanitized cs) (filled : casing cs ≠ [])
    (changed : ∀ {c}, isWordLetter c = true → isLetter (change c) = true ∨ isAsciiDigit (change c) = true) :
    IsCased isLetter (casing cs) := by
  refine ⟨filled, h.first cs clean, fun c hc => ?_⟩
  by_cases under : c = '_'
  · exact .inr (.inr under)
  · have kept : c ∈ (casing cs).filter (· ≠ '_') := List.mem_filter.mpr ⟨hc, by simpa using under⟩
    rw [h.letters cs clean] at kept
    obtain ⟨d, hd, rfl⟩ := List.mem_map.mp kept
    obtain ⟨inside, other⟩ := List.mem_filter.mp hd
    have letter := isWordLetter_of_ne_underscore (clean.characters d inside) (by simpa using other)
    exact (changed letter).imp_right .inl

variable {cs : List Char}

private theorem characters_of_all (h : cs.all (fun c => isLetter c || isAsciiDigit c || c == '_') = true) :
    ∀ c ∈ cs, isLetter c = true ∨ isAsciiDigit c = true ∨ c = '_' := fun c hc => by
  simpa [or_assoc] using List.all_eq_true.mp h c hc

private theorem IsCased.ofList_ne (h : IsCased isLetter cs) : String.ofList cs ≠ "_" := by
  intro same
  refine h.first ?_
  rw [← String.toList_ofList (l := cs), same]
  rfl

private theorem IsCased.closed (h : IsCased isLetter cs) : IsCased isLetter (cs ++ ['_']) where
  filled := List.append_ne_nil_of_left_ne_nil h.filled _
  first := by
    rw [List.head?_append_of_ne_nil _ h.filled]
    exact h.first
  characters c hc := by
    rcases List.mem_append.mp hc with front | under
    · exact h.characters c front
    · exact .inr (.inr (List.mem_singleton.mp under))

/-- A leading underscore for a digit makes no keyword. -/
private theorem IsCased.isPlainWord (h : IsCased isLetter cs)
    (letters : ∀ c, isLetter c = true → isWordCharacter c = true)
    (free : String.ofList cs ∉ Source.languageKeywords) :
    IsPlainWord isLetter (String.ofList (guardDigit cs)) := by
  have inside : ∀ c ∈ guardDigit cs, isLetter c = true ∨ isAsciiDigit c = true ∨ c = '_' := by
    intro c hc
    rcases mem_guardDigit hc with rfl | behind
    · exact .inr (.inr rfl)
    · exact h.characters c behind
  have plain : IsPlainName (guardDigit cs) := guardDigit_isPlainName h.filled fun c hc => by
    rcases h.characters c hc with letter | digit | rfl
    · exact letters c letter
    · simp [isWordCharacter, digit]
    · decide
  have no_keyword : String.ofList (guardDigit cs) ∉ Source.languageKeywords := by
    rw [guardDigit]
    split
    · intro reserved
      have lone := reserved_of_underscore _ reserved (.inl (by rw [String.toList_ofList]; rfl))
      have empty := congrArg String.toList lone
      rw [String.toList_ofList] at empty
      exact h.filled (List.cons.inj empty).2
    · exact free
  refine ⟨?_, ?_, no_keyword, fun lone => no_keyword (lone ▸ by decide)⟩
  · exact IsPlainName.isLegal (by rwa [String.toList_ofList])
  · rwa [String.toList_ofList]

end Words

section Cases

variable {spell casing : List Char → List Char}

/-- Capitals of letters and digits. -/
private theorem toUpper_changed {c : Char} (h : isWordLetter c = true) :
    isAsciiUpper c.toUpper = true ∨ isAsciiDigit c.toUpper = true :=
  of_isWordCharacter
    (P := fun c => isWordLetter c = true →
      isAsciiUpper c.toUpper = true ∨ isAsciiDigit c.toUpper = true)
    (by decide) (isWordCharacter_of_isWordLetter h) h

/-- Small forms of letters and digits. -/
private theorem toLower_changed {c : Char} (h : isWordLetter c = true) :
    isAsciiLower c.toLower = true ∨ isAsciiDigit c.toLower = true :=
  of_isWordCharacter
    (P := fun c => isWordLetter c = true →
      isAsciiLower c.toLower = true ∨ isAsciiDigit c.toLower = true)
    (by decide) (isWordCharacter_of_isWordLetter h) h

private theorem toUpper_eq_underscore {c : Char} (h : isWordCharacter c = true) :
    c.toUpper = '_' ↔ c = '_' :=
  of_isWordCharacter (P := fun c => c.toUpper = '_' ↔ c = '_') (by decide) h

private theorem toLower_eq_underscore {c : Char} (h : isWordCharacter c = true) :
    c.toLower = '_' ↔ c = '_' :=
  of_isWordCharacter (P := fun c => c.toLower = '_' ↔ c = '_') (by decide) h

private theorem not_small {c : Char} (h : isAsciiUpper c = true ∨ isAsciiDigit c = true ∨ c = '_') :
    isAsciiLower c = false := by
  have character : isWordCharacter c = true := by simpa [isWordCharacter, or_assoc] using .inr h
  exact of_isWordCharacter
    (P := fun c => isAsciiUpper c = true ∨ isAsciiDigit c = true ∨ c = '_' → isAsciiLower c = false)
    (by decide) character h

/-- A name that is not empty keeps its first letter in any case. -/
theorem IsCasing.ne_nil {change : Char → Char} (h : IsCasing change casing) {cs : List Char}
    (clean : IsSanitized cs) (filled : cs ≠ []) : casing cs ≠ [] := by
  intro none
  have kept := h.letters cs clean
  cases cs with
  | nil => exact filled rfl
  | cons c rest =>
    have letter : c ≠ '_' := fun under => clean.first (congrArg some under)
    rw [none, List.filter_cons_of_pos (by simpa using letter)] at kept
    cases kept

theorem constantNameBy_isPlainWord (h : IsCasing Char.toUpper casing) (s : String) :
    IsPlainWord isAsciiUpper (constantNameBy spell casing s) := by
  have clean := isSanitized_sanitizedBy spell s
  rw [constantNameBy]
  split
  · exact ⟨by decide, characters_of_all (by decide), by decide, by decide⟩
  · rename_i filled
    have cased : IsCased isAsciiUpper (casing (sanitizedBy spell s).toList) :=
      .ofCasing h clean (h.ne_nil clean (by simpa using filled)) toUpper_changed
    refine cased.isPlainWord (fun c capital => by simp [isWordCharacter, capital]) fun reserved => ?_
    rcases reserved_of_capitals _ reserved with small | lone
    · rw [String.toList_ofList] at small
      obtain ⟨c, hc, lower⟩ := List.any_eq_true.mp small
      rw [not_small (cased.characters c hc)] at lower
      cases lower
    · exact cased.ofList_ne lone

theorem moduleNameBy_isPlainWord (h : IsCasing Char.toLower casing) (s : String) :
    IsPlainWord isAsciiLower (moduleNameBy spell casing s) := by
  have clean := isSanitized_sanitizedBy spell s
  rw [moduleNameBy]
  split
  · exact ⟨by decide, characters_of_all (by decide), by decide, by decide⟩
  · rename_i filled
    have cased : IsCased isAsciiLower (casing (sanitizedBy spell s).toList) :=
      .ofCasing h clean (by simpa using filled) toLower_changed
    have letters : ∀ c, isAsciiLower c = true → isWordCharacter c = true := fun c small => by
      simp [isWordCharacter, small]
    dsimp only
    split
    · refine cased.closed.isPlainWord letters fun reserved => cased.closed.ofList_ne ?_
      exact reserved_of_underscore _ reserved
        (.inr (by rw [String.toList_ofList, List.getLast?_concat]))
    · rename_i free
      exact cased.isPlainWord letters fun reserved => free (isEscaped_iff.mpr reserved)

end Cases

section Humps

/-- The words of a sanitized name split at their capitals, in one case. -/
def recased (change : Char → Char) (cs : List Char) : List Char :=
  (joined ((words cs).flatMap humps)).map change

private theorem filter_joined {ws : List (List Char)} (h : ∀ w ∈ ws, IsWord w) :
    (joined ws).filter (· ≠ '_') = ws.flatten := by
  induction ws with
  | nil => rfl
  | cons w rest ih =>
    have own : w.filter (· ≠ '_') = w := List.filter_eq_self.mpr fun c hc => by
      simpa using ne_underscore_of_isWordLetter ((h w List.mem_cons_self).2 c hc)
    cases rest with
    | nil => rw [joined, List.intercalate_singleton, own, List.flatten_singleton]
    | cons v rest =>
      rw [joined_cons_cons, List.filter_append, own, List.filter_cons_of_neg (by simp),
        ih fun u hu => h u (List.mem_cons_of_mem _ hu), ← List.flatten_cons]

theorem isCasing_recased {change : Char → Char}
    (moves : ∀ {c}, isWordCharacter c = true → (change c = '_' ↔ c = '_')) :
    IsCasing change (recased change) where
  letters cs clean := by
    have parts := flatMap_humps_isWord (words_isWord cs)
    have kept : (joined ((words cs).flatMap humps)).filter ((· ≠ '_') ∘ change) =
        (joined ((words cs).flatMap humps)).filter (· ≠ '_') :=
      List.filter_congr fun c hc => by simp [moves (joined_isWordCharacter parts c hc)]
    calc
      _ = ((joined ((words cs).flatMap humps)).filter ((· ≠ '_') ∘ change)).map change := List.filter_map
      _ = ((words cs).flatMap humps).flatten.map change := by rw [kept, filter_joined parts]
      _ = ((joined (words cs)).filter (· ≠ '_')).map change := by
        rw [flatten_flatMap_humps, filter_joined (words_isWord cs)]
      _ = (cs.filter (· ≠ '_')).map change := by rw [clean.joined_words]
  first cs _ begins := by
    have parts := flatMap_humps_isWord (words_isWord cs)
    rw [recased, List.head?_map] at begins
    obtain ⟨c, hc, under⟩ := Option.map_eq_some_iff.mp begins
    rw [(moves (joined_isWordCharacter parts c (List.mem_of_mem_head? hc))).mp under] at hc
    exact (isSanitized_joined parts).first hc

variable (s : String)

private theorem nameParts_eq_nil_iff :
    nameParts s = [] ↔ joined (words (transliterate s.toList)) = [] := by
  have all := words_isWord (transliterate s.toList)
  constructor
  · intro none
    have flat := flatten_flatMap_humps (words (transliterate s.toList))
    rw [← nameParts, none] at flat
    cases found : words (transliterate s.toList) with
    | nil => rfl
    | cons w rest =>
      rw [found] at flat all
      exact absurd (List.append_eq_nil_iff.mp flat.symm).1 (all w List.mem_cons_self).1
  · intro none
    have empty : words (transliterate s.toList) = [] := by
      by_contra some
      exact joined_ne_nil some all none
    rw [nameParts, empty]
    rfl

private theorem recased_words (change : Char → Char) :
    recased change (joined (words (transliterate s.toList))) = (joined (nameParts s)).map change := by
  rw [recased, words_joined (words_isWord _)]
  rfl

theorem constantName_eq :
    constantName s = constantNameBy transliterate (recased Char.toUpper) s := by
  rw [constantName, constantNameBy, toList_sanitizedBy, recased_words]
  split
  · rename_i none
    rw [if_pos (List.isEmpty_iff.mpr ((nameParts_eq_nil_iff s).mp none))]
  · rename_i some
    rw [if_neg fun none => some ((nameParts_eq_nil_iff s).mpr (List.isEmpty_iff.mp none))]

theorem moduleName_eq :
    moduleName s = moduleNameBy transliterate (recased Char.toLower) s := by
  rw [moduleName, moduleNameBy, toList_sanitizedBy, recased_words]
  split
  · rename_i none
    rw [none]
    rfl
  · rename_i some
    have filled := joined_ne_nil some (nameParts_isWord s)
    rw [if_neg (by simpa using filled)]

end Humps

/-- Whatever the text is, its constant is an identifier of capitals, digits and underscores and its module one
of small letters, digits and underscores; neither is a keyword or a lone underscore. This holds for any
spelling of the text and any way to set the case, and so for the names that are used. -/
theorem derived_names_are_identifiers (spell : List Char → List Char) {upper lower : List Char → List Char}
    (hu : IsCasing Char.toUpper upper) (hl : IsCasing Char.toLower lower) (s : String) :
    IsPlainWord isAsciiUpper (constantNameBy spell upper s) ∧
      IsPlainWord isAsciiLower (moduleNameBy spell lower s) ∧
      IsPlainWord isAsciiUpper (constantName s) ∧ IsPlainWord isAsciiLower (moduleName s) := by
  refine ⟨constantNameBy_isPlainWord hu s, moduleNameBy_isPlainWord hl s, ?_, ?_⟩
  · rw [constantName_eq]
    exact constantNameBy_isPlainWord (isCasing_recased toUpper_eq_underscore) s
  · rw [moduleName_eq]
    exact moduleNameBy_isPlainWord (isCasing_recased toLower_eq_underscore) s

/-- A trimmed name that begins with a digit, and one that is a keyword only in small letters. -/
theorem derived_names_are_identifiers_odd :
    IsCasing Char.toUpper (recased Char.toUpper) ∧ IsCasing Char.toLower (recased Char.toLower) ∧
      constantName "-2nd id" = "_2ND_ID" ∧ moduleName "(Self)" = "self_" ∧
      IsPlainWord isAsciiUpper (constantNameBy transliterate (recased Char.toUpper) "-2nd id") ∧
      IsPlainWord isAsciiLower (moduleName "(Self)") := by
  have hu := isCasing_recased toUpper_eq_underscore
  have hl := isCasing_recased toLower_eq_underscore
  obtain ⟨constant, -⟩ := derived_names_are_identifiers transliterate hu hl "-2nd id"
  obtain ⟨-, -, -, module⟩ := derived_names_are_identifiers transliterate hu hl "(Self)"
  exact ⟨hu, hl, by decide +kernel, by decide +kernel, constant, module⟩

end ScreenNavigation.Naming
