import ScreenNavigation.Manifest.Reading
import ScreenNavigation.Proofs.Builder.Reexports
import ScreenNavigation.Proofs.Generation.EmittedScreens

/-! The last file of a run, which lists the modules of all others. It names each of them once, and shows a
builder as soon as no other one is spelled like it. -/
namespace ScreenNavigation.Generation

open Builder Declaration Naming

/-- The entries stand for the builders of a run, and the last file lists them and shows some of them. -/
structure ListsModules (d : Manifest.Discovery) (s : Settings) (out : Output)
    (entries shown : List ModuleEntry) : Prop where
  emitted : List.Forall₂ (fun screen f => (Plan.ofScreen screen).emit s = .ok f.code)
    (d.emittable.filter (emits s)) out.files.dropLast
  builders : entries.map (·.builder) = (d.emittable.filter (emits s)).map (·.builderName)
  files : out.files.dropLast.map (·.name) = entries.map fun e => e.module ++ ".rs"
  list : out.files.getLast? = some ⟨moduleListName,
    header "Generated screen builders" s ++ ended (moduleLines s entries shown)⟩
  modules : (entries.map (·.module)).Nodup
  ordered : shown.Sublist entries
  shown_iff : ∀ e ∈ entries, e ∈ shown ↔ ∀ other ∈ entries, other.builder = e.builder → other = e
  /-- Two builders of one identifier hide each other unless only one of their names is raw. -/
  alone_iff : ∀ e ∈ entries, (∀ other ∈ entries, bare other.builder = bare e.builder → other = e) ↔
    e ∈ shown ∧ ∀ other ∈ entries, ¬ AreTwins other.builder e.builder
  names : (shown.map (·.builder)).Nodup
  identifiers_iff : (shown.map fun e => bare e.builder).Nodup ↔
    ∀ e ∈ shown, ∀ other ∈ shown, ¬ AreTwins other.builder e.builder
  /-- No shown builder has the name of a module. -/
  apart : ∀ e ∈ shown, ∀ other ∈ entries, bare e.builder ≠ other.module

section Entries

variable {d : Manifest.Discovery} {s : Settings} {names : List String}

private def entriesOf (pairs : List (Screen × String)) : List ModuleEntry :=
  pairs.map fun p => ⟨p.2, p.1.builderName⟩

private theorem entries_of_made (same : outcomes d s = (d.emittable.zip names).map (outcomeOf s)) :
    (outcomes d s).filterMap (·.listing?) = entriesOf (made d s names) := by
  rw [same, List.filterMap_map, entriesOf, made, ← List.filterMap_eq_map, List.filterMap_filter]
  rfl

private theorem freeName_of_made (placed : Placed [] d.emittable names) {p : Screen × String}
    (hp : p ∈ made d s names) : ∃ taken, FreeName taken p.1.moduleName p.2 :=
  freeName_of_mem placed (List.mem_filter.mp hp).1

private theorem modules_nodup (placed : Placed [] d.emittable names) :
    ((made d s names).map Prod.snd).Nodup := by
  refine List.Nodup.sublist (List.filter_sublist.map Prod.snd) ?_
  rw [placed.map_snd_zip]
  exact placed.nodup

private theorem isLegal_of_made {p : Screen × String} (hp : p ∈ made d s names) :
    isLegal p.1.builderName = true := by
  obtain ⟨code, emitted⟩ := emits_iff.mp (List.mem_filter.mp hp).2
  rw [← Plan.name_ofScreen]
  exact Plan.isLegal_of_emit emitted

private theorem listsModules (placed : Placed [] d.emittable names)
    (same : outcomes d s = (d.emittable.zip names).map (outcomeOf s)) {out : Output} {list : String}
    (listed : emitModules ((outcomes d s).filterMap (·.listing?)) s = .ok list)
    (files : out.files = (outcomes d s).filterMap (·.file?) ++ [⟨moduleListName, list⟩]) :
    ∃ entries shown, ListsModules d s out entries shown := by
  rw [entries_of_made same] at listed
  have modules : ((entriesOf (made d s names)).map (·.module)).Nodup := by
    rw [entriesOf, List.map_map]
    exact modules_nodup placed
  have legal : ∀ e ∈ entriesOf (made d s names), isLegal e.builder = true := by
    intro e he
    obtain ⟨p, hp, rfl⟩ := List.mem_map.mp he
    exact isLegal_of_made hp
  refine ⟨entriesOf (made d s names), reexported _, ?_, ?_, ?_, ?_, modules, List.filter_sublist,
    fun e he => mem_reexported_iff modules he, fun e he => alone_iff modules legal he,
    reexported_names_nodup modules, reexported_identifiers_nodup_iff modules legal, ?_⟩
  · rw [files, List.dropLast_concat]
    exact emitted_files placed same
  · rw [← map_fst_made placed, entriesOf, List.map_map, List.map_map]
    rfl
  · rw [files, List.dropLast_concat, names_of_files same, entriesOf, List.map_map]
    rfl
  · rw [files, List.getLast?_concat, emitModules_eq_header listed, render_modulesCode]
  · intro e he other ho
    obtain ⟨p, _, rfl⟩ := List.mem_map.mp (List.mem_filter.mp he).1
    obtain ⟨q, hq, rfl⟩ := List.mem_map.mp ho
    obtain ⟨taken, free⟩ := freeName_of_made placed hq
    exact bare_builderName_ne_module free

/-- Whenever no illegal name stops a run, its last file lists the modules of its builders. -/
theorem run_lists_modules (m : Manifest) (check : Manifest.SubtypeCheck) (s : Settings)
    (legal : ∀ name, run (Manifest.discover m check) s ≠ .error (.illegalName name)) :
    ∃ out entries shown, run (Manifest.discover m check) s = .ok out ∧
      ListsModules (Manifest.discover m check) s out entries shown := by
  obtain ⟨names, list, placed, same, made, _⟩ | ⟨screen, _, name, _, stopped⟩ :=
    run_cases (Manifest.discover m check) s
  · obtain ⟨list, listed, files⟩ := files_of_run made
    obtain ⟨entries, shown, lists⟩ := listsModules placed same listed files
    exact ⟨_, entries, shown, made, lists⟩
  · exact absurd stopped (legal name)

/-- Two screens of one name, whose builders hide each other, and one more. -/
def neighbours : Manifest where
  baseType := Manifest.defaultBaseType
  classes := [
    ⟨.of "crate::a::Home" (.ofNames ["crate", "a", "Home"]), none, .type, false,
      [Manifest.defaultBaseType]⟩,
    ⟨.of "crate::b::Home" (.ofNames ["crate", "b", "Home"]), none, .type, false,
      [Manifest.defaultBaseType]⟩,
    ⟨.of "crate::About" (.ofNames ["crate", "About"]), none, .type, false, [Manifest.defaultBaseType]⟩]
  fields := []

theorem run_lists_modules_neighbours :
    (∀ name, run (Manifest.discover neighbours fun _ _ => true) (.standard "") ≠
      .error (.illegalName name)) ∧
    ∃ out entries shown, run (Manifest.discover neighbours fun _ _ => true) (.standard "") = .ok out ∧
      ListsModules (Manifest.discover neighbours fun _ _ => true) (.standard "") out entries shown := by
  have made : ((run (Manifest.discover neighbours fun _ _ => true) (.standard "")).map fun out =>
      out.files.map (·.name)).toOption =
        some ["home_builder.rs", "home_builder2.rs", "about_builder.rs", "mod.rs"] := by decide +kernel
  exact ⟨not_illegal_of_made made, run_lists_modules neighbours _ _ (not_illegal_of_made made)⟩

/-- Two screens whose names are one identifier, spelled in two ways. -/
def twinsManifest : String :=
  "\x7b\"classes\":[\x7b\"identity\":\"crate::a::Home\"\x7d,\x7b\"identity\":\"crate::b::r#Home\"\x7d]\x7d"

private def twins : List ModuleEntry :=
  [⟨"home_builder", "HomeBuilder"⟩, ⟨"r_home_builder", "r#HomeBuilder"⟩]

/-- The names of the files for a manifest with the entries that they have in the last one, every type
counting as a screen. -/
private def entries? (text : String) : Option (List String × List ModuleEntry) :=
  match Manifest.read text with
  | .ok m =>
    match run (Manifest.discover m fun _ _ => true) (.standard "") with
    | .ok out => some (out.files.map (·.name),
        (outcomes (Manifest.discover m fun _ _ => true) (.standard "")).filterMap (·.listing?))
    | .error _ => none
  | .error _ => none

/-- Both builders of one identifier are shown. -/
theorem run_shows_twins : ∃ m out, Manifest.read twinsManifest = .ok m ∧
    run (Manifest.discover m fun _ _ => true) (.standard "") = .ok out ∧
    out.files.map (·.name) = ["home_builder.rs", "r_home_builder.rs", "mod.rs"] ∧
    out.files.getLast? = some ⟨"mod.rs", header "Generated screen builders" (.standard "") ++
      ended ["pub mod home_builder;", "pub mod r_home_builder;", "pub use home_builder::HomeBuilder;",
        "pub use r_home_builder::r#HomeBuilder;"]⟩ ∧
    bare "r#HomeBuilder" = bare "HomeBuilder" := by
  have found : entries? twinsManifest =
      some (["home_builder.rs", "r_home_builder.rs", "mod.rs"], twins) := by decide +kernel
  rw [entries?] at found
  split at found
  · rename_i m read
    split at found
    · rename_i out made
      rw [Option.some.injEq, Prod.mk.injEq] at found
      obtain ⟨list, listed, files⟩ := files_of_run made
      rw [found.2] at listed
      have lines : moduleLines (.standard "") twins (reexported twins) =
          ["pub mod home_builder;", "pub mod r_home_builder;", "pub use home_builder::HomeBuilder;",
            "pub use r_home_builder::r#HomeBuilder;"] := by decide
      refine ⟨m, out, read, made, found.1, ?_, by decide⟩
      rw [files, List.getLast?_concat, emitModules_eq_header listed, render_modulesCode, lines]
      rfl
    · cases found
  · cases found

end Entries

end ScreenNavigation.Generation
