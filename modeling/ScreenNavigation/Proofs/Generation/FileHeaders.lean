import ScreenNavigation.Manifest.Reading
import ScreenNavigation.Proofs.Builder.Headers
import ScreenNavigation.Proofs.Generation.GeneratedFiles

/-! The headers of the files of a run. A manifest reaches them by its identities and packages, and nothing
else of a file depends on the packages. -/
namespace ScreenNavigation.Generation

open Builder Declaration

private theorem emit_of_file? {d : Manifest.Discovery} {s : Settings} {f : SourceFile}
    (h : f ∈ (outcomes d s).filterMap (·.file?)) :
    ∃ screen ∈ d.emittable, (Plan.ofScreen screen).emit s = .ok f.code := by
  obtain ⟨names, _, same⟩ := exists_placed d s
  rw [files_eq same] at h
  obtain ⟨p, hp, made⟩ := List.mem_filterMap.mp h
  exact ⟨p.1, (List.of_mem_zip hp).1, (of_fileOf? made).2⟩

/-- The file is the builder of the screen. It has its header exactly where the source and all that the
title names are single lines, and what follows the header is the same for all packages. -/
structure IsFileOf (s : Settings) (screen : Screen) (f : SourceFile) : Prop where
  emitted : (Plan.ofScreen screen).emit s = .ok f.code
  headed_iff : IsHeaded f.code ((Plan.ofScreen screen).code s).render ↔
    ('\n' ∉ screen.identity.text.toList ∧ '\n' ∉ screen.package.toList) ∧ '\n' ∉ s.source.toList
  moved : ∀ package, (Plan.ofScreen { screen with package := package }).emit s =
    .ok (header (Plan.ofScreen { screen with package := package }).title s ++
      ((Plan.ofScreen screen).code s).render)

private theorem isFileOf {s : Settings} {screen : Screen} {f : SourceFile}
    (emitted : (Plan.ofScreen screen).emit s = .ok f.code) : IsFileOf s screen f where
  emitted := emitted
  headed_iff := by
    rw [(Plan.emit_eq_ok_iff.mp emitted).2, isHeaded_header_iff, Plan.title_free_iff,
      Plan.target_ofScreen, Plan.package_ofScreen]
  moved := fun other => by
    rw [Plan.ofScreen_package]
    exact Plan.emit_package emitted other

/-- Besides the builders of concrete screens a run makes the list of their modules, and that has its
header exactly where the source is a single line. -/
theorem run_headed_iff (m : Manifest) (check : Manifest.SubtypeCheck) (s : Settings) {out : Output}
    (made : run (Manifest.discover m check) s = .ok out) :
    ∃ builders list, out.files = builders ++ [⟨moduleListName, list⟩] ∧
      (∀ f ∈ builders, ∃ screen ∈ (Manifest.discover m check).emittable, IsFileOf s screen f) ∧
      (IsHeaded list (modulesCode
          ((outcomes (Manifest.discover m check) s).filterMap (·.listing?)) s).render ↔
        '\n' ∉ s.source.toList) := by
  obtain ⟨list, listed, files⟩ := files_of_run made
  refine ⟨_, list, files, fun f hf => ?_, ?_⟩
  · obtain ⟨screen, found, emitted⟩ := emit_of_file? hf
    exact ⟨screen, found, isFileOf emitted⟩
  · have plain : '\n' ∉ "Generated screen builders".toList := by decide
    rw [emitModules_eq_header listed, isHeaded_header_iff]
    exact and_iff_right plain

/-- A screen in a package of two lines. -/
def brokenManifest : String :=
  "\x7b\"classes\":[\x7b\"identity\":\"crate::Home\",\"package\":\"crate\\n\x7d\"\x7d]\x7d"

/-- The packages of the concrete screens of a manifest, every type counting as a screen, and how many
files there are for them. -/
private def packagesOf? (text : String) : Option (List String × Nat) :=
  match Manifest.read text with
  | .ok m =>
    match run (Manifest.discover m fun _ _ => true) (.standard "") with
    | .ok out =>
      some ((Manifest.discover m fun _ _ => true).emittable.map (·.package), out.files.length)
    | .error _ => none
  | .error _ => none

private theorem exists_broken : ∃ m out, Manifest.read brokenManifest = .ok m ∧
    run (Manifest.discover m fun _ _ => true) (.standard "") = .ok out ∧
    (Manifest.discover m fun _ _ => true).emittable.map (·.package) = ["crate\n\x7d"] ∧
    out.files.length = 2 := by
  have broken : packagesOf? brokenManifest = some (["crate\n\x7d"], 2) := by decide +kernel
  rw [packagesOf?] at broken
  split at broken
  · rename_i m read
    split at broken
    · rename_i out made
      rw [Option.some.injEq, Prod.mk.injEq] at broken
      exact ⟨m, out, read, made, broken.1, broken.2⟩
    · cases broken
  · cases broken

theorem run_headed_iff_broken : ∃ m out, Manifest.read brokenManifest = .ok m ∧
    run (Manifest.discover m fun _ _ => true) (.standard "") = .ok out ∧
    ∃ builders list, out.files = builders ++ [⟨moduleListName, list⟩] ∧
      (∀ f ∈ builders, ∃ screen ∈ (Manifest.discover m fun _ _ => true).emittable,
        IsFileOf (.standard "") screen f) ∧
      (IsHeaded list (modulesCode ((outcomes (Manifest.discover m fun _ _ => true)
          (.standard "")).filterMap (·.listing?)) (.standard "")).render ↔
        '\n' ∉ (Settings.standard "").source.toList) := by
  obtain ⟨m, out, read, made, _⟩ := exists_broken
  exact ⟨m, out, read, made, run_headed_iff m _ _ made⟩

/-- A package that does not end with its line leaves the header of a builder. -/
theorem run_breaks_header : ∃ m out, Manifest.read brokenManifest = .ok m ∧
    run (Manifest.discover m fun _ _ => true) (.standard "") = .ok out ∧
    '\n' ∉ (Settings.standard "").source.toList ∧
    ∃ f ∈ out.files, ∃ screen ∈ (Manifest.discover m fun _ _ => true).emittable,
      (Plan.ofScreen screen).emit (.standard "") = .ok f.code ∧
        ¬ IsHeaded f.code ((Plan.ofScreen screen).code (.standard "")).render := by
  obtain ⟨m, out, read, made, packages, two⟩ := exists_broken
  obtain ⟨list, _, files⟩ := files_of_run made
  refine ⟨m, out, read, made, List.not_mem_nil, ?_⟩
  cases builders : (outcomes (Manifest.discover m fun _ _ => true) (.standard "")).filterMap
      (·.file?) with
  | nil =>
    rw [files, builders] at two
    cases two
  | cons f rest =>
    obtain ⟨screen, found, emitted⟩ := emit_of_file? (builders ▸ List.mem_cons_self)
    have package : screen.package = "crate\n\x7d" := by
      have listed := List.mem_map_of_mem (f := (·.package)) found
      rw [packages] at listed
      exact List.mem_singleton.mp listed
    refine ⟨f, ?_, screen, found, emitted, fun headed => ?_⟩
    · rw [files, builders]
      exact List.mem_append_left _ List.mem_cons_self
    · have free := ((isFileOf emitted).headed_iff.mp headed).1.2
      rw [package] at free
      exact free (by decide)

end ScreenNavigation.Generation
