import ScreenNavigation.Proofs.Naming.LegalNames

/-! Names made from a screen's name and the word builder. Neither the builder nor its module, numbered or
not, can be a reserved word. -/
namespace ScreenNavigation.Naming

/-- A word that is no builder's in any way: it ends otherwise, and it has no number. -/
structure IsForeign (word : String) : Prop where
  not_module : ¬ "builder".toList <:+ word.toList
  not_builder : ¬ "Builder".toList <:+ word.toList
  no_digit : ∀ c ∈ word.toList, c.isDigit = false

instance (word : String) : Decidable (IsForeign word) :=
  decidable_of_iff (¬ "builder".toList <:+ word.toList ∧ ¬ "Builder".toList <:+ word.toList ∧
      word.toList.all (!·.isDigit) = true)
    ⟨fun h => ⟨h.1, h.2.1, fun c hc => by simpa using List.all_eq_true.mp h.2.2 c hc⟩,
      fun h => ⟨h.1, h.2, List.all_eq_true.mpr fun c hc => by simp [h.3 c hc]⟩⟩

theorem isForeign_of_keyword : ∀ word ∈ Source.languageKeywords, IsForeign word := by decide

private theorem no_keyword_of_suffix {cs : List Char} (h : "builder".toList <:+ cs) :
    (keywords.contains (String.ofList cs) || unescapable.contains (String.ofList cs)) = false := by
  by_contra taken
  rw [Bool.not_eq_false, isEscaped_iff] at taken
  refine (isForeign_of_keyword _ taken).not_module ?_
  rwa [String.toList_ofList (l := cs)]

private theorem suffix_guardDigit (cs : List Char) : cs <:+ guardDigit cs := by
  rw [guardDigit]
  split
  · exact List.suffix_cons _ _
  · exact List.suffix_rfl

theorem moduleName_builder_suffix (s : String) :
    "builder".toList <:+ (moduleName (s ++ "Builder")).toList := by
  have low : "uilder".toList.all (!Text.isAsciiUpper ·) = true := by decide
  obtain ⟨front, ends⟩ := joined_nameParts_append s 'B' "uilder".toList
    ⟨by decide, List.all_eq_true.mp (by decide)⟩ (List.all_eq_true.mp (by decide))
    fun d hd => by simpa using List.all_eq_true.mp low d hd
  change joined (nameParts (s ++ "Builder")) = _ at ends
  have small : "builder".toList <:+ (joined (nameParts (s ++ "Builder"))).map Char.toLower := by
    rw [ends, List.map_append]
    exact List.suffix_append _ _
  rw [moduleName]
  split
  · rename_i none
    simp [none, joined] at ends
  · simp only [no_keyword_of_suffix small, Bool.false_eq_true, if_false, String.toList_ofList]
    exact small.trans (suffix_guardDigit _)

theorem builderName_ne_foreign (s : String) {word : String} (h : IsForeign word) :
    s ++ "Builder" ≠ word := by
  rintro rfl
  exact h.not_builder (by rw [String.toList_append]; exact List.suffix_append _ _)

/-- The number behind a module name keeps it from being any word without a number. -/
theorem FreeName.builder_ne_foreign {taken : List String} {s name word : String}
    (h : FreeName taken (moduleName (s ++ "Builder")) name) (foreign : IsForeign word) :
    name ≠ word := by
  rintro rfl
  cases h with
  | own free => exact foreign.not_module (moduleName_builder_suffix s)
  | numbered i two_le base_taken free least =>
    have filled := Nat.toDigits_ne_nil (b := 10) (n := i)
    obtain ⟨c, hc⟩ := List.exists_mem_of_ne_nil _ filled
    have digit := Nat.isDigit_of_mem_toDigits (by decide) (by decide) hc
    have plain := foreign.no_digit c (by
      rw [String.toList_append, Nat.toString_eq_ofList_toDigits, String.toList_ofList]
      exact List.mem_append_right _ hc)
    rw [digit] at plain
    cases plain

/-- A number adds no capitals. -/
theorem FreeName.not_capital {taken : List String} {s name : String}
    (h : FreeName taken (moduleName s) name) : ∀ c ∈ name.toList, Text.isAsciiUpper c = false := by
  cases h with
  | own free => exact moduleName_not_capital s
  | numbered i two_le base_taken free least =>
    intro c hc
    rw [String.toList_append, Nat.toString_eq_ofList_toDigits, String.toList_ofList] at hc
    rcases List.mem_append.mp hc with front | number
    · exact moduleName_not_capital s c front
    · have digit := Nat.isDigit_of_mem_toDigits (by decide) (by decide) number
      rw [← Bool.not_eq_true]
      intro capital
      simp only [Char.isDigit, Text.isAsciiUpper, Bool.and_eq_true, decide_eq_true_eq,
        Char.le_def] at digit capital
      exact absurd (UInt32.le_trans capital.1 digit.2) (by decide)

/-- A builder has a capital that no module has, also without the mark that makes it raw. -/
theorem capital_mem_bare_builderName (s : String) : 'B' ∈ (bare (s ++ "Builder")).toList := by
  have whole : 'B' ∈ (s ++ "Builder").toList := by
    rw [String.toList_append]
    exact List.mem_append_right _ (by decide)
  rcases bare_eq_or_eq_raw (s ++ "Builder") with plain | raw
  · rwa [plain]
  · rw [raw, String.toList_append] at whole
    rcases List.mem_append.mp whole with mark | behind
    · exact absurd mark (by decide)
    · exact behind

theorem bare_builderName_ne_module {taken : List String} {s other name : String}
    (h : FreeName taken (moduleName other) name) : bare (s ++ "Builder") ≠ name := by
  rintro rfl
  have capital := h.not_capital 'B' (capital_mem_bare_builderName s)
  exact absurd capital (by decide)

end ScreenNavigation.Naming
