import ScreenNavigation.Manifest.Reading
import ScreenNavigation.Proofs.Builder.PlannedMembers
import ScreenNavigation.Proofs.Declaration.SimpleNames
import ScreenNavigation.Proofs.Generation.GeneratedFiles

/-! When a run comes to an end. Every other name that is written is legal, so only the name of a builder
can stop a run, and it does so exactly when no clash is found before. -/
namespace ScreenNavigation.Generation

open Builder Declaration Naming

section Names

variable {d : Manifest.Discovery} {screen : Screen} {s : Settings}

private theorem storage_isLegal (formed : d.WellFormed) (hs : screen ∈ d.screens) :
    ∀ b ∈ (Plan.ofScreen screen).storage, isLegal b.name = true := by
  intro b hb
  rw [Plan.storage_ofScreen] at hb
  obtain ⟨f, hf, rfl⟩ := List.mem_map.mp hb
  exact (formed.declared screen hs f hf).name_isLegal

/-- A screen stops a run only by the name of its builder, and only where no members clash. -/
private theorem emit_illegalName (formed : d.WellFormed) (hs : screen ∈ d.screens) {name : String} :
    (Plan.ofScreen screen).emit s = .error (.illegalName name) ↔
      (Plan.ofScreen screen).clashes = [] ∧ isLegal screen.builderName = false ∧
        name = screen.builderName := by
  rw [Plan.emit_illegalName_iff, Plan.illegalName?_eq_some_iff (storage_isLegal formed hs),
    Plan.name_ofScreen]

end Names

/-- The names that a screen gives to generated code besides that of its builder. -/
structure HasLegalNames (screen : Screen) : Prop where
  /-- However often the module has to be renamed. -/
  module : ∀ taken name, FreeName taken screen.moduleName name → isLegal name = true
  fields : ∀ f ∈ screen.fields, isLegal f.name = true ∧ isLegal f.constant = true ∧
    isLegal f.setter = true ∧ isLegal f.getter = true

private theorem hasLegalNames {d : Manifest.Discovery} {screen : Screen} (formed : d.WellFormed)
    (hs : screen ∈ d.screens) : HasLegalNames screen where
  module := fun _ _ free => (IsPlainName.ofFreeName free (moduleName_isPlainName _)).isLegal
  fields := fun f hf => by
    have declared := formed.declared screen hs f hf
    exact ⟨declared.name_isLegal, (constantName_isPlainName f.key).isLegal, declared.setter_isLegal,
      declared.name_isLegal⟩

/-- A run ends well exactly when the builders of all concrete screens without clashes have legal names.
All other names are legal, and so is a builder's where its screen has a clear identity. -/
theorem run_isolates_failures (m : Manifest) (check : Manifest.SubtypeCheck) (s : Settings) :
    ((∃ out, run (Manifest.discover m check) s = .ok out) ↔
      ∀ screen ∈ (Manifest.discover m check).emittable, (Plan.ofScreen screen).clashes = [] →
        isLegal screen.builderName = true) ∧
    (∀ fault, run (Manifest.discover m check) s = .error fault →
      ∃ screen ∈ (Manifest.discover m check).emittable,
        fault = .illegalName screen.builderName) ∧
    ∀ screen ∈ (Manifest.discover m check).screens, HasLegalNames screen ∧
      ∀ raw, TypePath.parse raw = .ok screen.identity → Source.IsClear raw.toList →
        isLegal screen.builderName = true := by
  have formed := Manifest.discover_wellFormed m check
  have found : ∀ screen ∈ (Manifest.discover m check).emittable,
      screen ∈ (Manifest.discover m check).screens := fun screen hs => (List.mem_filter.mp hs).1
  refine ⟨?_, ?_, fun screen hs => ⟨hasLegalNames formed hs, fun raw => builderName_isLegal⟩⟩
  · obtain ⟨names, list, _, _, made, quiet⟩ | ⟨screen, hs, name, illegal, stopped⟩ :=
      run_cases (Manifest.discover m check) s
    · refine ⟨fun _ screen hs clear => ?_, fun _ => ⟨_, made⟩⟩
      by_contra bad
      exact quiet screen hs _
        ((emit_illegalName formed (found screen hs)).mpr ⟨clear, Bool.not_eq_true _ ▸ bad, rfl⟩)
    · obtain ⟨clear, bad, _⟩ := (emit_illegalName formed (found screen hs)).mp illegal
      refine ⟨fun ⟨out, made⟩ => ?_, fun legal => ?_⟩
      · rw [stopped] at made
        cases made
      · rw [legal screen hs clear] at bad
        cases bad
  · intro fault failed
    obtain ⟨names, list, _, _, made, _⟩ | ⟨screen, hs, name, illegal, stopped⟩ :=
      run_cases (Manifest.discover m check) s
    · rw [made] at failed
      cases failed
    · obtain ⟨_, _, rfl⟩ := (emit_illegalName formed (found screen hs)).mp illegal
      rw [stopped] at failed
      cases failed
      exact ⟨screen, hs, rfl⟩

def commentedManifest : String :=
  "\x7b\"classes\":[\x7b\"identity\":\"crate::/*x*/Home\"\x7d,\x7b\"identity\":\"crate::About\"\x7d]\x7d"

/-- Why the screens of a manifest cannot be generated, every type counting as a screen. -/
private def stopOf? (text : String) : Option EmissionFault :=
  match Manifest.read text with
  | .ok m =>
    match run (Manifest.discover m fun _ _ => true) (.standard "") with
    | .error f => some f
    | .ok _ => none
  | .error _ => none

/-- A comment inside an accepted identity keeps all other screens from their files. -/
theorem run_stopped_by_comment :
    ∃ m, Manifest.read commentedManifest = .ok m ∧
      run (Manifest.discover m fun _ _ => true) (.standard "") =
        .error (.illegalName "/*x*/HomeBuilder") := by
  have stop : stopOf? commentedManifest = some (.illegalName "/*x*/HomeBuilder") := by
    decide +kernel
  rw [stopOf?] at stop
  split at stop
  · rename_i m read
    split at stop
    · rename_i f failed
      cases stop
      exact ⟨m, read, failed⟩
    · cases stop
  · cases stop

end ScreenNavigation.Generation
