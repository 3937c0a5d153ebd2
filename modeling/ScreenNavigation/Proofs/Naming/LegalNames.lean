import ScreenNavigation.Naming.Legality
import ScreenNavigation.Proofs.Naming.FreeName
import ScreenNavigation.Proofs.Naming.Words

/-! Names that can be written as identifiers. Constants, modules and setters are plain ASCII names by
construction. -/
namespace ScreenNavigation.Naming

open Text

section Keywords

variable {word : String}

/-- The words that are escaped are the keywords of the language. -/
theorem mem_languageKeywords_iff :
    word ∈ Source.languageKeywords ↔ word ∈ keywords ∨ word ∈ unescapable := by
  have covered : ∀ word ∈ Source.languageKeywords, word ∈ keywords ∨ word ∈ unescapable := by decide
  have listed : ∀ word ∈ keywords ++ unescapable, word ∈ Source.languageKeywords := by decide
  exact ⟨covered word, fun h => listed word (List.mem_append.mpr h)⟩

/-- The words that get an underscore are the ones that have no raw form. -/
theorem mem_rawlessWords_iff : word ∈ Source.rawlessWords ↔ word ∈ unescapable := by
  have covered : ∀ word ∈ Source.rawlessWords, word ∈ unescapable := by decide
  have listed : ∀ word ∈ unescapable, word ∈ Source.rawlessWords := by decide
  exact ⟨covered word, listed word⟩

theorem rawlessWords_subset : Source.rawlessWords ⊆ Source.languageKeywords := fun _ h =>
  mem_languageKeywords_iff.mpr (.inr (mem_rawlessWords_iff.mp h))

theorem isEscaped_iff :
    (keywords.contains word || unescapable.contains word) = true ↔ word ∈ Source.languageKeywords := by
  rw [mem_languageKeywords_iff, Bool.or_eq_true, List.contains_iff_mem, List.contains_iff_mem]

end Keywords

/-- A letter or underscore, then letters, digits and underscores, all of ASCII. -/
structure IsPlainName (cs : List Char) : Prop where
  start : ∃ c rest, cs = c :: rest ∧ isAsciiDigit c = false
  characters : ∀ c ∈ cs, isWordCharacter c = true

private theorem exists_ofNat {c : Char} (ascii : isAscii c = true) : ∃ n < 128, c = Char.ofNat n :=
  ⟨c.toNat, by simpa [isAscii] using ascii, (Char.ofNat_toNat c).symm⟩

theorem isAscii_of_isWordCharacter {c : Char} (h : isWordCharacter c = true) : isAscii c = true := by
  simp only [isWordCharacter, isAsciiLower, isAsciiUpper, isAsciiDigit, Bool.or_eq_true,
    Bool.and_eq_true, decide_eq_true_eq, beq_iff_eq, Char.le_def, UInt32.le_iff_toNat_le] at h
  have low : c.toNat < 0x80 := by
    rcases h with ((small | capital) | digit) | rfl
    · exact Nat.lt_of_le_of_lt small.2 (by decide)
    · exact Nat.lt_of_le_of_lt capital.2 (by decide)
    · exact Nat.lt_of_le_of_lt digit.2 (by decide)
    · decide
  simpa [isAscii] using low

theorem isIdentifierContinue_of_isWordCharacter {c : Char} (h : isWordCharacter c = true) :
    isIdentifierContinue c = true := by
  rw [isIdentifierContinue, if_pos (isAscii_of_isWordCharacter h), h]

theorem isIdentifierStart_of_isWordCharacter {c : Char} (h : isWordCharacter c = true)
    (digit : isAsciiDigit c = false) : isIdentifierStart c = true := by
  rw [isIdentifierStart, if_pos (isAscii_of_isWordCharacter h)]
  simpa [isWordCharacter, digit] using h

/-- What holds of one word character after the other holds of all. -/
theorem of_isWordCharacter {P : Char → Prop}
    (all : ∀ n < 128, isWordCharacter (Char.ofNat n) = true → P (Char.ofNat n)) {c : Char}
    (h : isWordCharacter c = true) : P c := by
  obtain ⟨n, hn, rfl⟩ := exists_ofNat (isAscii_of_isWordCharacter h)
  exact all n hn h

private theorem toUpper_isWordCharacter {c : Char} (h : isWordCharacter c = true) :
    isWordCharacter c.toUpper = true :=
  of_isWordCharacter (P := fun c => isWordCharacter c.toUpper = true) (by decide) h

private theorem toLower_isWordCharacter {c : Char} (h : isWordCharacter c = true) :
    isWordCharacter c.toLower = true :=
  of_isWordCharacter (P := fun c => isWordCharacter c.toLower = true) (by decide) h

section Shapes

variable {name : String}

/-- The shape of an identifier leaves no room for the mark that makes it raw. -/
theorem not_raw_of_shape (h : hasIdentifierShape name.toList = true) :
    rawMark.isPrefixOf name.toList = false := by
  by_contra raw
  obtain ⟨rest, same⟩ := List.isPrefixOf_iff_prefix.mp (Bool.not_eq_false _ ▸ raw)
  have mark : isIdentifierContinue '#' = false := by decide
  rw [← same] at h
  simp [hasIdentifierShape, rawMark, mark] at h

theorem bare_of_shape (h : hasIdentifierShape name.toList = true) : bare name = name := by
  rw [bare, not_raw_of_shape h]
  rfl

theorem isLegal_of_shape (h : hasIdentifierShape name.toList = true) : isLegal name = true := by
  simp only [isLegal, bare_of_shape h, not_raw_of_shape h, h, Bool.false_and, Bool.not_false,
    Bool.and_true]

private theorem isPrefixOf_raw (name : String) : rawMark.isPrefixOf ("r#" ++ name).toList = true := by
  rw [String.toList_append]
  rfl

theorem bare_raw (name : String) : bare ("r#" ++ name) = name := by
  rw [bare, if_pos (isPrefixOf_raw name), String.toList_append]
  exact String.ofList_toList

theorem bare_eq_or_eq_raw (name : String) : bare name = name ∨ name = "r#" ++ bare name := by
  rw [bare]
  split
  · rename_i raw
    obtain ⟨rest, same⟩ := List.isPrefixOf_iff_prefix.mp raw
    right
    rw [← String.toList_inj, String.toList_append, ← same]
    exact congrArg (rawMark ++ ·) String.toList_ofList.symm
  · exact .inl rfl

theorem isLegal_raw (name : String) :
    isLegal ("r#" ++ name) = (hasIdentifierShape name.toList && !Source.rawlessWords.contains name) := by
  simp only [isLegal, isPrefixOf_raw, bare_raw, Bool.true_and]

theorem bare_bare_of_legal (h : isLegal name = true) : bare (bare name) = bare name := by
  rw [isLegal, Bool.and_eq_true] at h
  exact bare_of_shape h.1

/-- Legal names are one identifier when they are equal or one of them is the other's raw form. -/
theorem bare_eq_bare_iff {other : String} (h : isLegal name = true) (ho : isLegal other = true) :
    bare name = bare other ↔ name = other ∨ name = "r#" ++ other ∨ other = "r#" ++ name := by
  constructor
  · intro same
    rcases bare_eq_or_eq_raw name with plain | raw
    · rcases bare_eq_or_eq_raw other with plainOther | rawOther
      · exact .inl (by rw [← plain, same, plainOther])
      · exact .inr (.inr (by rw [← plain, same, ← rawOther]))
    · rcases bare_eq_or_eq_raw other with plainOther | rawOther
      · exact .inr (.inl (by rw [← plainOther, ← same, ← raw]))
      · exact .inl (by rw [raw, same, ← rawOther])
  · rintro (rfl | rfl | rfl)
    · rfl
    · have twice := bare_bare_of_legal h
      rw [bare_raw] at twice
      rw [bare_raw, twice]
    · have twice := bare_bare_of_legal ho
      rw [bare_raw] at twice
      rw [bare_raw, twice]

end Shapes

namespace IsPlainName

theorem hasIdentifierShape {cs : List Char} (h : IsPlainName cs) :
    Naming.hasIdentifierShape cs = true := by
  obtain ⟨⟨c, rest, rfl, digit⟩, characters⟩ := h
  have tail : rest.all isIdentifierContinue = true := List.all_eq_true.mpr fun d hd =>
    isIdentifierContinue_of_isWordCharacter (characters d (List.mem_cons_of_mem _ hd))
  rw [Naming.hasIdentifierShape, tail,
    isIdentifierStart_of_isWordCharacter (characters c List.mem_cons_self) digit]
  rfl

theorem bare_eq {name : String} (h : IsPlainName name.toList) : bare name = name :=
  bare_of_shape h.hasIdentifierShape

theorem isLegal {name : String} (h : IsPlainName name.toList) : Naming.isLegal name = true :=
  isLegal_of_shape h.hasIdentifierShape

theorem append {cs more : List Char} (h : IsPlainName cs)
    (hm : ∀ c ∈ more, isWordCharacter c = true) : IsPlainName (cs ++ more) := by
  obtain ⟨⟨c, rest, rfl, digit⟩, characters⟩ := h
  refine ⟨⟨c, rest ++ more, rfl, digit⟩, fun d hd => ?_⟩
  rcases List.mem_append.mp hd with front | back
  · exact characters d front
  · exact hm d back

theorem closed {name : String} (h : IsPlainName name.toList) : IsPlainName (name ++ "_").toList := by
  rw [String.toList_append]
  exact h.append (List.all_eq_true.mp (by decide))

theorem numbered {base : String} (h : IsPlainName base.toList) (i : Nat) :
    IsPlainName (base ++ toString i).toList := by
  rw [String.toList_append]
  refine h.append fun c hc => ?_
  have digit : c.isDigit = true := by
    rw [Nat.toString_eq_ofList_toDigits, String.toList_ofList] at hc
    exact Nat.isDigit_of_mem_toDigits (by decide) (by decide) hc
  have ascii : isAsciiDigit c = true := by
    simpa [Char.isDigit, isAsciiDigit, Char.le_def] using digit
  simp [isWordCharacter, ascii]

theorem ofFreeName {taken : List String} {base name : String} (h : FreeName taken base name)
    (plain : IsPlainName base.toList) : IsPlainName name.toList := by
  cases h with
  | own free => exact plain
  | numbered i two_le base_taken free least => exact plain.numbered i

end IsPlainName

theorem guardDigit_isPlainName {cs : List Char} (filled : cs ≠ [])
    (characters : ∀ c ∈ cs, isWordCharacter c = true) : IsPlainName (guardDigit cs) := by
  cases cs with
  | nil => exact absurd rfl filled
  | cons c rest =>
    cases digit : isAsciiDigit c with
    | false => exact ⟨⟨c, rest, by simp [guardDigit, digit], digit⟩,
        by simpa [guardDigit, digit] using characters⟩
    | true =>
      refine ⟨⟨'_', c :: rest, by simp [guardDigit, digit], by decide⟩, ?_⟩
      have mark : isWordCharacter '_' = true := by decide
      simpa [guardDigit, digit, mark] using characters

theorem constantName_isPlainName (s : String) : IsPlainName (constantName s).toList := by
  rw [constantName]
  split
  · exact ⟨⟨'U', "NNAMED".toList, by decide, by decide⟩, List.all_eq_true.mp (by decide)⟩
  · rename_i parts
    have words := nameParts_isWord s
    rw [String.toList_ofList]
    refine guardDigit_isPlainName (by simpa using joined_ne_nil parts words) fun c hc => ?_
    obtain ⟨d, hd, rfl⟩ := List.mem_map.mp hc
    exact toUpper_isWordCharacter (joined_isWordCharacter words d hd)

theorem mem_guardDigit {c : Char} {cs : List Char} (h : c ∈ guardDigit cs) :
    c = '_' ∨ c ∈ cs := by
  rw [guardDigit] at h
  split at h
  · exact List.mem_cons.mp h
  · exact .inr h

private theorem toUpper_not_small {c : Char} (h : isWordCharacter c = true) :
    isAsciiLower c.toUpper = false :=
  of_isWordCharacter (P := fun c => isAsciiLower c.toUpper = false) (by decide) h

/-- A constant has no small letters. -/
theorem constantName_not_small (s : String) :
    ∀ c ∈ (constantName s).toList, isAsciiLower c = false := by
  intro c hc
  rw [constantName] at hc
  split at hc
  · have unnamed : "UNNAMED".toList.all (!isAsciiLower ·) = true := by decide
    simpa using List.all_eq_true.mp unnamed c hc
  · have capital : ∀ c ∈ (joined (nameParts s)).map Char.toUpper, isAsciiLower c = false := by
      intro c hc
      obtain ⟨d, hd, rfl⟩ := List.mem_map.mp hc
      exact toUpper_not_small (joined_isWordCharacter (nameParts_isWord s) d hd)
    rw [String.toList_ofList] at hc
    rcases mem_guardDigit hc with rfl | behind
    · decide
    · exact capital c behind

theorem moduleName_isPlainName (s : String) : IsPlainName (moduleName s).toList := by
  rw [moduleName]
  split
  · exact ⟨⟨'u', "nnamed".toList, by decide, by decide⟩, List.all_eq_true.mp (by decide)⟩
  · rename_i parts
    have words := nameParts_isWord s
    have small : ∀ c ∈ (joined (nameParts s)).map Char.toLower, isWordCharacter c = true := by
      intro c hc
      obtain ⟨d, hd, rfl⟩ := List.mem_map.mp hc
      exact toLower_isWordCharacter (joined_isWordCharacter words d hd)
    have filled : (joined (nameParts s)).map Char.toLower ≠ [] := by
      simpa using joined_ne_nil parts words
    simp only [String.toList_ofList]
    split
    · refine guardDigit_isPlainName (by simp) fun c hc => ?_
      rcases List.mem_append.mp hc with front | mark
      · exact small c front
      · rw [List.mem_singleton.mp mark]
        decide
    · exact guardDigit_isPlainName filled small

private theorem toLower_not_capital {c : Char} (h : isWordCharacter c = true) :
    isAsciiUpper c.toLower = false :=
  of_isWordCharacter (P := fun c => isAsciiUpper c.toLower = false) (by decide) h

/-- A module has no capitals. -/
theorem moduleName_not_capital (s : String) :
    ∀ c ∈ (moduleName s).toList, isAsciiUpper c = false := by
  intro c hc
  rw [moduleName] at hc
  split at hc
  · have unnamed : "unnamed".toList.all (!isAsciiUpper ·) = true := by decide
    simpa using List.all_eq_true.mp unnamed c hc
  · have small : ∀ c ∈ (joined (nameParts s)).map Char.toLower, isAsciiUpper c = false := by
      intro c hc
      obtain ⟨d, hd, rfl⟩ := List.mem_map.mp hc
      exact toLower_not_capital (joined_isWordCharacter (nameParts_isWord s) d hd)
    simp only [String.toList_ofList] at hc
    rcases mem_guardDigit hc with rfl | behind
    · decide
    · split at behind
      · rcases List.mem_append.mp behind with front | mark
        · exact small c front
        · rw [List.mem_singleton.mp mark]
          decide
      · exact small c behind

theorem setterName_isPlainName {name : String} (h : IsPlainName (bare name).toList) :
    IsPlainName (setterName name).toList := by
  rw [setterName, String.toList_append]
  have front : IsPlainName "set_".toList :=
    ⟨⟨'s', "et_".toList, by decide, by decide⟩, List.all_eq_true.mp (by decide)⟩
  exact front.append h.characters

end ScreenNavigation.Naming
