import ScreenNavigation.Proofs.Builder.EmissionFaults
import ScreenNavigation.Proofs.Builder.PlannedMembers
import ScreenNavigation.Proofs.Manifest.DiscoveredScreens

/-! Which builders are refused for the names of their items. Only constants can clash with each other, and
only setters with constants and with the methods of every builder; all other names are apart. -/
namespace ScreenNavigation.Builder

open Declaration Manifest Naming Text

section Words

private def HasSmall (word : String) : Prop := ∃ c ∈ word.toList, isAsciiLower c = true

private theorem hasSmall_of_any {word : String} (h : word.toList.any isAsciiLower = true) :
    HasSmall word := List.any_eq_true.mp h

private theorem method_hasSmall : ∀ name ∈ Plan.methodNames, HasSmall name := by
  have all : ∀ name ∈ Plan.methodNames, name.toList.any isAsciiLower = true := by decide
  exact fun name hn => hasSmall_of_any (all name hn)

private theorem keyword_hasSmall :
    ∀ word ∈ Source.languageKeywords, word ∉ Source.rawlessWords → HasSmall word := by
  have all : ∀ word ∈ Source.languageKeywords, word ∉ Source.rawlessWords →
      word.toList.any isAsciiLower = true := by decide
  exact fun word keyword raw => hasSmall_of_any (all word keyword raw)

private theorem keyword_notMem_methodNames :
    ∀ word ∈ Source.languageKeywords, word ∉ Plan.methodNames := by decide

private theorem methodNames_nodup : Plan.methodNames.Nodup := by decide

private theorem bare_methodNames : Plan.methodNames.map bare = Plan.methodNames := by decide

private theorem constant_ne_of_small {word : String} (small : HasSmall word) (f : Field) :
    f.constant ≠ word := by
  rintro rfl
  obtain ⟨c, hc, lower⟩ := small
  rw [constantName_not_small f.key c hc] at lower
  cases lower

end Words

section Screens

variable {screen : Screen}

/-- Two fields have one constant, or the setter of an optional field has the name of a constant or of a
method. -/
def HasClash (screen : Screen) : Prop :=
  ¬ (screen.fields.map (·.constant)).Nodup ∨
    ∃ f ∈ screen.fields, f.isOptional = true ∧
      (f.name ∈ Plan.methodNames ∨ ∃ g ∈ screen.fields, f.name = g.constant)

private theorem not_hasClash_iff : ¬ HasClash screen ↔
    (screen.fields.map (·.constant)).Nodup ∧
      ∀ f ∈ screen.optional, f.name ∉ Plan.methodNames ∧
        f.name ∉ screen.fields.map (·.constant) := by
  simp only [HasClash, Screen.optional, List.mem_filter, List.mem_map, not_or, not_not, not_exists,
    not_and, and_imp, eq_comm]

private theorem not_hasClash_of_nodup (distinct : (Plan.ofScreen screen).itemNames.Nodup) :
    ¬ HasClash screen := by
  rw [(Plan.itemNames_perm screen).nodup_iff] at distinct
  obtain ⟨constants, others, apart⟩ := List.nodup_append.mp distinct
  obtain ⟨_, _, unlike⟩ := List.nodup_append.mp others
  refine not_hasClash_iff.mpr ⟨constants, fun f hf => ⟨fun method => ?_, fun constant => ?_⟩⟩
  · exact unlike f.name (List.mem_map.mpr ⟨f, hf, rfl⟩) f.name method rfl
  · exact apart f.name constant f.name
      (List.mem_append_left _ (List.mem_map.mpr ⟨f, hf, rfl⟩)) rfl

/-- A key that is not the name of its field is a keyword, and no constant or method is one. -/
private theorem key_apart {f : Field} (declared : IsDeclared f)
    (method : f.name ∉ Plan.methodNames) (constant : f.name ∉ screen.fields.map (·.constant)) :
    f.key ∉ Plan.methodNames ∧ f.key ∉ screen.fields.map (·.constant) := by
  rcases declared.name_cases with same | ⟨⟨keyword, raw⟩, _⟩
  · rw [← same]
    exact ⟨method, constant⟩
  · refine ⟨keyword_notMem_methodNames f.key keyword, fun taken => ?_⟩
    obtain ⟨g, _, same⟩ := List.mem_map.mp taken
    exact constant_ne_of_small (keyword_hasSmall f.key keyword raw) g same

private theorem bare_itemNames_perm (screen : Screen) :
    ((Plan.ofScreen screen).itemNames.map bare).Perm
      (screen.fields.map (·.constant) ++ (screen.optional.map (·.key) ++ Plan.methodNames)) := by
  have constants : (screen.fields.map (·.constant)).map bare = screen.fields.map (·.constant) := by
    rw [List.map_map]
    refine List.map_congr_left fun f _ => ?_
    rw [Function.comp_apply, Field.constant]
    exact (constantName_isPlainName f.key).bare_eq
  have setters : (screen.optional.map (·.name)).map bare = screen.optional.map (·.key) := by
    rw [List.map_map]
    refine List.map_congr_left fun f _ => ?_
    rw [Function.comp_apply, Field.key]
  have mapped := (Plan.itemNames_perm screen).map bare
  rwa [List.map_append, List.map_append, constants, setters, bare_methodNames] at mapped

private theorem bare_itemNames_nodup (declared : ∀ f ∈ screen.fields, IsDeclared f)
    (clear : ¬ HasClash screen) :
    ((Plan.ofScreen screen).itemNames.map bare).Nodup := by
  obtain ⟨constants, setters⟩ := not_hasClash_iff.mp clear
  have optional : screen.optional.Sublist screen.fields := List.filter_sublist
  have apart : ∀ f ∈ screen.optional, f.key ∉ Plan.methodNames ∧
      f.key ∉ screen.fields.map (·.constant) := fun f hf =>
    key_apart (declared f (optional.subset hf)) (setters f hf).1 (setters f hf).2
  rw [(bare_itemNames_perm screen).nodup_iff]
  refine List.nodup_append.mpr ⟨constants, List.nodup_append.mpr
    ⟨screen.distinct.sublist (optional.map (·.key)), methodNames_nodup, ?_⟩, ?_⟩
  · intro key hk method hm same
    obtain ⟨f, hf, rfl⟩ := List.mem_map.mp hk
    exact (apart f hf).1 (same ▸ hm)
  · intro constant hc other ho same
    rcases List.mem_append.mp ho with setter | method
    · obtain ⟨f, hf, rfl⟩ := List.mem_map.mp setter
      exact (apart f hf).2 (same ▸ hc)
    · obtain ⟨f, _, rfl⟩ := List.mem_map.mp hc
      exact constant_ne_of_small (method_hasSmall other method) f same

theorem clashes_eq_nil_iff_not_hasClash (declared : ∀ f ∈ screen.fields, IsDeclared f) :
    (Plan.ofScreen screen).clashes = [] ↔ ¬ HasClash screen := by
  rw [Plan.clashes_eq_nil_iff]
  exact ⟨not_hasClash_of_nodup, fun clear =>
    List.Nodup.of_map bare (bare_itemNames_nodup declared clear)⟩

end Screens

/-- A screen that was found is refused for a clash exactly when it has one. The items of any other builder
have names of their own, and so have its fields, also where raw marks do not count. -/
theorem clashes_refused_exactly (m : Manifest) (check : SubtypeCheck) (s : Settings) {screen : Screen}
    (found : screen ∈ (discover m check).emittable) :
    ((∃ names, (Plan.ofScreen screen).emit s = .error (.clashes screen.builderName names)) ↔
      HasClash screen) ∧
    ((∀ names, (Plan.ofScreen screen).emit s ≠ .error (.clashes screen.builderName names)) →
      (((Plan.ofScreen screen).code s).blockNames.map bare).Nodup ∧
        (((Plan.ofScreen screen).code s).fieldNames.map bare).Nodup) := by
  have hs : screen ∈ (discover m check).screens := (List.mem_filter.mp found).1
  have declared := (discover_wellFormed m check).declared screen hs
  have refused : (∃ names, (Plan.ofScreen screen).emit s = .error (.clashes screen.builderName names)) ↔
      HasClash screen := by
    rw [← Plan.name_ofScreen, Plan.emit_clashes_iff, ne_eq, clashes_eq_nil_iff_not_hasClash declared,
      not_not]
  refine ⟨refused, fun accepted => ⟨?_, ?_⟩⟩
  · rw [Plan.blockNames_code]
    refine bare_itemNames_nodup declared fun clash => ?_
    obtain ⟨names, stopped⟩ := refused.mpr clash
    exact accepted names stopped
  · rw [Plan.fieldNames_code, Plan.storage_ofScreen, List.map_map, List.map_map]
    exact screen.distinct

/-- In the first screen two constants clash and a setter clashes with a method; in the second, a setter
only has the name of a keyword. -/
def wizard : Manifest where
  baseType := Manifest.defaultBaseType
  classes := [
    ⟨.of "crate::Wizard" (.ofNames ["crate", "Wizard"]), none, .type, false,
      [Manifest.defaultBaseType]⟩,
    ⟨.of "crate::Page" (.ofNames ["crate", "Page"]), none, .type, false, [Manifest.defaultBaseType]⟩]
  fields := [
    ⟨"crate::Wizard", .field, "builder", .primitive .u8, false, some (.bool true)⟩,
    ⟨"crate::Wizard", .field, "stepCount", .primitive .u8, false, none⟩,
    ⟨"crate::Wizard", .field, "step_count", .primitive .u8, false, none⟩,
    ⟨"crate::Page", .field, "type", .primitive .u8, false, some (.bool true)⟩,
    ⟨"crate::Page", .field, "kind", .primitive .u8, false, none⟩]

private theorem wizard_clashes :
    (discover wizard fun _ _ => true).emittable.map (·.identity.text) =
      ["crate::Wizard", "crate::Page"] ∧
    ∀ screen ∈ (discover wizard fun _ _ => true).emittable,
      HasClash screen ↔ screen.identity.text = "crate::Wizard" := by
  unfold HasClash
  decide +kernel

theorem clashes_refused_wizard :
    ∃ first ∈ (discover wizard fun _ _ => true).emittable,
      ∃ second ∈ (discover wizard fun _ _ => true).emittable,
        (∃ names, (Plan.ofScreen first).emit (.standard "") =
          .error (.clashes first.builderName names)) ∧
        (∀ names, (Plan.ofScreen second).emit (.standard "") ≠
          .error (.clashes second.builderName names)) ∧
        (((Plan.ofScreen second).code (.standard "")).blockNames.map bare).Nodup ∧
        (((Plan.ofScreen second).code (.standard "")).fieldNames.map bare).Nodup := by
  obtain ⟨identities, clash⟩ := wizard_clashes
  have listed : ∀ text ∈ ["crate::Wizard", "crate::Page"],
      ∃ screen ∈ (discover wizard fun _ _ => true).emittable, screen.identity.text = text :=
    fun text ht => List.mem_map.mp (identities ▸ ht)
  obtain ⟨first, hf, wizardText⟩ := listed "crate::Wizard" (.head _)
  obtain ⟨second, hs, pageText⟩ := listed "crate::Page" (.tail _ (.head _))
  have refused := (clashes_refused_exactly wizard _ (.standard "") hf).1.mpr
    ((clash first hf).mpr wizardText)
  have accepted : ∀ names, (Plan.ofScreen second).emit (.standard "") ≠
      .error (.clashes second.builderName names) := fun names stopped => by
    have clashing := (clash second hs).mp
      ((clashes_refused_exactly wizard _ (.standard "") hs).1.mp ⟨names, stopped⟩)
    rw [pageText] at clashing
    exact absurd clashing (by decide)
  exact ⟨first, hf, second, hs, refused, accepted,
    (clashes_refused_exactly wizard _ (.standard "") hs).2 accepted⟩

end ScreenNavigation.Builder
