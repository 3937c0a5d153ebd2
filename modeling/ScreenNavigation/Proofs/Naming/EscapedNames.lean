import ScreenNavigation.Proofs.Naming.LegalNames

/-! Declared names as identifiers. Everything is decided by the bare name, so the raw mark of a declared name
makes no difference, and only a word without a raw form changes its spelling. -/
namespace ScreenNavigation.Naming

open Source (languageKeywords rawlessWords)

/-- An identifier that is no keyword, and needs no escape. -/
def IsUnreserved (name : String) : Prop :=
  hasIdentifierShape name.toList = true ∧ name ∉ languageKeywords

/-- The names are escaped to one identifier: they are equal but for raw marks, or one is a word without a raw
form and the other has an underscore more. -/
def AreOne (m n : String) : Prop :=
  bare m = bare n ∨ bare m ∈ rawlessWords ∧ bare n = bare m ++ "_" ∨
    bare n ∈ rawlessWords ∧ bare m = bare n ++ "_"

variable {name m n : String}

/-- The three ways in which a name is escaped. -/
theorem escaped_eq (name : String) :
    bare name ∈ rawlessWords ∧ escaped name = bare name ++ "_" ∨
      (bare name ∉ rawlessWords ∧ bare name ∈ languageKeywords) ∧ escaped name = "r#" ++ bare name ∨
      bare name ∉ languageKeywords ∧ escaped name = bare name := by
  simp only [escaped, List.contains_iff_mem]
  by_cases rawless : bare name ∈ rawlessWords
  · exact .inl ⟨rawless, if_pos (mem_rawlessWords_iff.mp rawless)⟩
  · right
    have unclosed : bare name ∉ unescapable := mt mem_rawlessWords_iff.mpr rawless
    have listed : bare name ∈ languageKeywords ↔ bare name ∈ keywords := by
      rw [mem_languageKeywords_iff, or_iff_left unclosed]
    rw [if_neg unclosed, listed]
    by_cases keyword : bare name ∈ keywords
    · exact .inl ⟨⟨rawless, keyword⟩, if_pos keyword⟩
    · exact .inr ⟨keyword, if_neg keyword⟩

/-- A closing underscore makes a word of any word that has no raw form. -/
theorem closed_unreserved : ∀ word ∈ rawlessWords, word ++ "_" ∉ languageKeywords := by decide

theorem escaped_of_unreserved (free : IsUnreserved name) : escaped name = name := by
  obtain ⟨shape, free⟩ := free
  have plain := bare_of_shape shape
  obtain ⟨rawless, -⟩ | ⟨⟨-, keyword⟩, -⟩ | ⟨-, same⟩ := escaped_eq name
  · exact absurd (rawlessWords_subset (plain ▸ rawless)) free
  · exact absurd (plain ▸ keyword) free
  · rw [same, plain]

theorem escaped_raw {word : String} (keyword : word ∈ languageKeywords) (raw : word ∉ rawlessWords) :
    escaped ("r#" ++ word) = "r#" ++ word := by
  have plain := bare_raw word
  obtain ⟨rawless, -⟩ | ⟨-, same⟩ | ⟨free, -⟩ := escaped_eq ("r#" ++ word)
  · exact absurd (plain ▸ rawless) raw
  · rw [same, plain]
  · exact absurd keyword (plain ▸ free)

section Fields

variable (plain : IsPlainName (bare name).toList)

include plain

/-- A field name becomes an identifier that is no keyword, or a keyword that is written raw. -/
theorem escaped_unreserved_or_raw : IsUnreserved (escaped name) ∨
    ∃ word ∈ languageKeywords, word ∉ rawlessWords ∧ escaped name = "r#" ++ word := by
  obtain ⟨rawless, same⟩ | ⟨⟨raw, keyword⟩, same⟩ | ⟨free, same⟩ := escaped_eq name
  · rw [same]
    exact .inl ⟨plain.closed.hasIdentifierShape, closed_unreserved _ rawless⟩
  · exact .inr ⟨_, keyword, raw, same⟩
  · rw [same]
    exact .inl ⟨plain.hasIdentifierShape, free⟩

theorem escaped_escaped : escaped (escaped name) = escaped name := by
  obtain free | ⟨word, keyword, raw, same⟩ := escaped_unreserved_or_raw plain
  · exact escaped_of_unreserved free
  · rw [same, escaped_raw keyword raw]

theorem bare_escaped :
    bare (escaped name) = if bare name ∈ rawlessWords then bare name ++ "_" else bare name := by
  obtain ⟨rawless, same⟩ | ⟨⟨raw, -⟩, same⟩ | ⟨free, same⟩ := escaped_eq name
  · rw [same, if_pos rawless, plain.closed.bare_eq]
  · rw [same, if_neg raw, bare_raw]
  · rw [same, if_neg (mt (rawlessWords_subset ·) free), plain.bare_eq]

/-- Without its escape a field name is plain: the raw mark goes, a closing underscore stays. -/
theorem bare_escaped_isPlainName : IsPlainName (bare (escaped name)).toList := by
  rw [bare_escaped plain]
  split
  · exact plain.closed
  · exact plain

/-- An escaped name is its own bare form, unless that is a keyword, which is written raw. -/
theorem escaped_cases : escaped name = bare (escaped name) ∨
    (bare (escaped name) ∈ languageKeywords ∧ bare (escaped name) ∉ rawlessWords) ∧
      escaped name = "r#" ++ bare (escaped name) := by
  obtain ⟨shape, -⟩ | ⟨word, keyword, raw, same⟩ := escaped_unreserved_or_raw plain
  · exact .inl (bare_of_shape shape).symm
  · rw [same, bare_raw]
    exact .inr ⟨⟨keyword, raw⟩, rfl⟩

theorem escaped_isLegal : isLegal (escaped name) = true := by
  obtain ⟨shape, -⟩ | ⟨word, -, raw, same⟩ := escaped_unreserved_or_raw plain
  · exact isLegal_of_shape shape
  · have body := bare_escaped_isPlainName plain
    rw [same, bare_raw] at body
    rw [same, isLegal_raw, body.hasIdentifierShape]
    simpa using raw

end Fields

theorem bare_escaped_eq_iff (hm : IsPlainName (bare m).toList) (hn : IsPlainName (bare n).toList) :
    bare (escaped m) = bare (escaped n) ↔ AreOne m n := by
  rw [bare_escaped hm, bare_escaped hn, AreOne]
  by_cases fm : bare m ∈ rawlessWords <;> by_cases fn : bare n ∈ rawlessWords
  · have notMore : bare n ≠ bare m ++ "_" := fun same =>
      closed_unreserved _ fm (rawlessWords_subset (same ▸ fn))
    have notLess : bare m ≠ bare n ++ "_" := fun same =>
      closed_unreserved _ fn (rawlessWords_subset (same ▸ fm))
    simp [fm, fn, notMore, notLess]
  · have apart : bare m ≠ bare n := fun same => fn (same ▸ fm)
    simp [fm, fn, apart, eq_comm]
  · have apart : bare m ≠ bare n := fun same => fm (same ▸ fn)
    simp [fm, fn, apart]
  · simp [fm, fn]

end ScreenNavigation.Naming
