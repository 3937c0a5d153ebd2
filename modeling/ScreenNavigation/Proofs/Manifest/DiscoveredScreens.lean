import ScreenNavigation.Proofs.Manifest.CollectedEntries
import ScreenNavigation.Proofs.Naming.EscapedNames

/-! What every discovery has in common, whatever the manifest and the subtype check. No identity is
found twice, and every field comes from an entry with a field name. -/
namespace ScreenNavigation.Manifest

open Declaration

/-- The field was declared under a field name. -/
def IsDeclared (f : Field) : Prop := ∃ e : FieldEntry, isFieldName e.name = true ∧ f = fieldOf e

namespace Discovery

structure WellFormed (d : Discovery) : Prop where
  identities : (d.screens.map (·.identity.text)).Nodup
  declared : ∀ s ∈ d.screens, ∀ f ∈ s.fields, IsDeclared f

end Discovery

open Discovery (WellFormed)

theorem discover_wellFormed (m : Manifest) (check : SubtypeCheck) : WellFormed (discover m check) := by
  have collected := discover_collected m check
  refine ⟨collected.identities ▸ nodup_map_firsts _ _, ?_⟩
  intro s hs f hf
  rw [collected.fields_eq hs] at hf
  obtain ⟨e, accepted, rfl⟩ := exists_of_mem_fieldsFor hf
  exact ⟨e, (Bool.and_eq_true _ _ ▸ accepted).2, rfl⟩

section Fields

variable {f : Field}

theorem bare_isPlainName {name : String} (h : isFieldName name = true) :
    Naming.IsPlainName (Naming.bare name).toList := by
  simp only [isFieldName, Bool.and_eq_true] at h
  obtain ⟨⟨_, head⟩, characters⟩ := h
  refine ⟨?_, List.all_eq_true.mp characters⟩
  cases hb : (Naming.bare name).toList with
  | nil => simp [hb] at head
  | cons c rest =>
    simp only [hb, List.head?_cons, Option.any_some, Bool.and_eq_true, Bool.not_eq_true'] at head
    exact ⟨c, rest, rfl, head.2⟩

theorem IsDeclared.name_isLegal (h : IsDeclared f) : Naming.isLegal f.name = true := by
  obtain ⟨e, named, rfl⟩ := h
  exact Naming.escaped_isLegal (bare_isPlainName named)

theorem IsDeclared.setter_isLegal (h : IsDeclared f) : Naming.isLegal f.setter = true := by
  obtain ⟨e, named, rfl⟩ := h
  exact (Naming.setterName_isPlainName
    (Naming.bare_escaped_isPlainName (bare_isPlainName named))).isLegal

/-- The name of a field is its key, written raw where the key is a keyword. -/
theorem IsDeclared.name_cases (h : IsDeclared f) :
    f.name = f.key ∨
      (f.key ∈ Source.languageKeywords ∧ f.key ∉ Source.rawlessWords) ∧ f.name = "r#" ++ f.key := by
  obtain ⟨e, named, rfl⟩ := h
  exact Naming.escaped_cases (bare_isPlainName named)

end Fields

end ScreenNavigation.Manifest
