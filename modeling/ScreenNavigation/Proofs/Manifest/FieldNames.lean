import ScreenNavigation.Proofs.Manifest.DiscoveredScreens

/-! Field names that a manifest may give, as the identifiers and the keys of a screen, and which of them a
screen takes for one. -/
namespace ScreenNavigation.Manifest

open Declaration Naming

section Screens

variable {f g : Field} (s : Screen)

theorem hasKey_addField : (s.addField f).1.hasKey g.key = (s.hasKey g.key || f.key == g.key) := by
  by_cases taken : s.hasKey f.key = true
  · rw [Screen.addField_of_taken taken]
    by_cases same : f.key = g.key
    · rw [← same, taken, Bool.true_or]
    · simp [same]
  · rw [Screen.addField_of_free taken]
    simp [Screen.hasKey]

theorem addField_eq_iff : s.addField g = (s, false) ↔ s.hasKey g.key = true := by
  by_cases taken : s.hasKey g.key = true
  · simp [Screen.addField_of_taken taken, taken]
  · simp [Screen.addField_of_free taken, taken]

/-- Of two fields the second is dropped exactly when its key is taken, by the first one or before. -/
theorem addField_addField_iff :
    (s.addField f).1.addField g = ((s.addField f).1, false) ↔
      s.hasKey g.key = true ∨ f.key = g.key := by
  rw [addField_eq_iff, hasKey_addField, Bool.or_eq_true, beq_iff_eq]

end Screens

/-- A field name is escaped once and for all, to an identifier that is no keyword or to a keyword that may be
written raw. Its key is the bare name, closed by an underscore where the word has no raw form, so a screen
takes two names for one exactly when their bare names are equal or differ by such an underscore. -/
theorem field_names_merge {m n : String} (hm : isFieldName m = true) (hn : isFieldName n = true) :
    (IsUnreserved (escaped m) ∨
        ∃ word ∈ Source.languageKeywords, word ∉ Source.rawlessWords ∧ escaped m = "r#" ++ word) ∧
      escaped (escaped m) = escaped m ∧
      ∀ (s : Screen) (t t' : FieldType) (p p' : Bool) (k k' : Option Json.Value),
        (Field.declare m t p k).key =
            (if bare m ∈ Source.rawlessWords then bare m ++ "_" else bare m) ∧
          ((s.addField (.declare m t p k)).1.addField (.declare n t' p' k') =
              ((s.addField (.declare m t p k)).1, false) ↔
            s.hasKey (Field.declare n t' p' k').key = true ∨ AreOne m n) := by
  have plain := bare_isPlainName hm
  have plain' := bare_isPlainName hn
  refine ⟨escaped_unreserved_or_raw plain, escaped_escaped plain, fun s t t' p p' k k' => ?_⟩
  refine ⟨bare_escaped plain, ?_⟩
  rw [addField_addField_iff, ← bare_escaped_eq_iff plain plain']
  rfl

/-- A screen without fields. -/
def login : Screen := ⟨.of "crate::Login" (.ofNames ["crate", "Login"]), "crate", false, [], List.nodup_nil⟩

/-- A lone underscore is a field name only when it is written raw. -/
theorem field_names_merge_underscores :
    isFieldName "_" = false ∧ isFieldName "r#_" = true ∧ isFieldName "__" = true ∧
      (login.addField (.declare "r#_" .string false none)).1.addField
          (.declare "__" .string true none) =
        ((login.addField (.declare "r#_" .string false none)).1, false) := by
  have accepted : isFieldName "r#_" = true := by decide
  have accepted' : isFieldName "__" = true := by decide
  have one : AreOne "r#_" "__" := .inr (.inl (by decide))
  obtain ⟨-, -, all⟩ := field_names_merge accepted accepted'
  exact ⟨by decide, accepted, accepted',
    (all login .string .string false true none none).2.mpr (.inr one)⟩

end ScreenNavigation.Manifest
