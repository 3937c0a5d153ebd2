import ScreenNavigation.Generation.Run
import ScreenNavigation.Proofs.Generation.Placement
import ScreenNavigation.Proofs.Manifest.DiscoveredScreens
import ScreenNavigation.Proofs.Naming.BuilderNames

/-! The files and warnings of a run, screen by screen. A screen that fails keeps the name of its module
from others but changes nothing else about them. -/
namespace ScreenNavigation.Generation

open Builder Declaration

/-- The file of a screen whose module has the name, if its builder can be emitted on its own. -/
def fileOf? (s : Settings) (p : Screen × String) : Option SourceFile :=
  match (Plan.ofScreen p.1).emit s with
  | .ok code => some ⟨p.2 ++ ".rs", code⟩
  | .error _ => none

def renameWarnings (p : Screen × String) : List Warning :=
  if p.2 = p.1.moduleName then [] else [.moduleRenamed p.1.builderName p.2]

def failureWarnings (s : Settings) (screen : Screen) : List Warning :=
  match (Plan.ofScreen screen).emit s with
  | .ok _ => []
  | .error f => [.emissionFailed screen.identity.text f.message]

/-- Whether the warning says that the screen with the identity was left out. -/
def Warning.isFailureOf (identity : String) : Warning → Bool
  | .emissionFailed screen _ => screen == identity
  | .moduleRenamed _ _ => false

/-- The files and warnings that a discovery stands for, with the names of the modules of its concrete
screens in order. -/
structure Describes (d : Manifest.Discovery) (s : Settings) (names : List String) (out : Output) :
    Prop where
  named : names.length = d.emittable.length
  /-- A name is chosen beside those of all earlier concrete screens. -/
  placed : ∀ (i : Nat) (screen : Screen) (name : String), d.emittable[i]? = some screen →
    names[i]? = some name → Naming.FreeName (names.take i) screen.moduleName name
  files : ∃ list, out.files =
    (d.emittable.zip names).filterMap (fileOf? s) ++ [⟨moduleListName, list⟩]
  distinct : (out.files.map (·.name)).Nodup
  list_last : ∀ f ∈ out.files.dropLast, f.name ≠ moduleListName
  warnings : out.warnings = (d.emittable.zip names).flatMap fun p =>
    renameWarnings p ++ failureWarnings s p.1
  /-- Exactly the concrete screens that were left out have a warning, and only one. -/
  failed : ∀ screen ∈ d.screens, out.warnings.countP (·.isFailureOf screen.identity.text) =
    if screen.isAbstract = false ∧ ((Plan.ofScreen screen).emit s).toBool = false then 1 else 0
  /-- Exactly the screens whose own name was taken have a warning, and only one. -/
  renamed : ∀ (i : Nat) (screen : Screen) (name : String), d.emittable[i]? = some screen →
    names[i]? = some name → out.warnings.count (.moduleRenamed screen.builderName name) =
      if screen.moduleName ∈ names.take i then 1 else 0

section Counting

variable {α β κ : Type}

theorem countP_flatMap_of_ite {l : List α} {f : α → List β} {p : β → Bool} {c : α → Bool}
    (h : ∀ a, (f a).countP p = if c a then 1 else 0) : (l.flatMap f).countP p = l.countP c := by
  induction l with
  | nil => rfl
  | cons a rest ih =>
    rw [List.flatMap_cons, List.countP_append, ih, h, List.countP_cons, Nat.add_comm]

private theorem countP_of_key (key : α → κ) {l : List α} (distinct : (l.map key).Nodup) {a : α}
    (ha : a ∈ l) {c : α → Bool} (same : ∀ b, c b = true → key b = key a) :
    l.countP c = if c a then 1 else 0 := by
  induction l with
  | nil => cases ha
  | cons b rest ih =>
    obtain ⟨apart, later⟩ := List.nodup_cons.mp distinct
    rw [List.countP_cons]
    rcases List.mem_cons.mp ha with rfl | behind
    · have none : rest.countP c = 0 := List.countP_eq_zero.mpr fun t ht hc =>
        apart (List.mem_map.mpr ⟨t, ht, same t hc⟩)
      rw [none, Nat.zero_add]
    · have other : ¬ c b = true := fun hc =>
        apart (List.mem_map.mpr ⟨a, behind, (same b hc).symm⟩)
      rw [ih later behind, if_neg other, Nat.add_zero]

end Counting

/-- The screen has the identity and cannot be emitted. -/
private def isLost (s : Settings) (identity : String) (screen : Screen) : Bool :=
  screen.identity.text == identity && !((Plan.ofScreen screen).emit s).toBool

section Outcomes

variable (s : Settings) (p : Screen × String)

theorem warnings_outcomeOf :
    (outcomeOf s p).warnings = renameWarnings p ++ failureWarnings s p.1 := by
  rw [Outcome.warnings, renameWarnings, failureWarnings, outcomeOf]
  cases (Plan.ofScreen p.1).emit s with
  | ok code => simp only [bne_iff_ne, ne_eq, ite_not, Plan.name_ofScreen]
  | error f => simp only [bne_iff_ne, ne_eq, ite_not, Plan.name_ofScreen]

private theorem countP_failures (identity : String) :
    (renameWarnings p ++ failureWarnings s p.1).countP (·.isFailureOf identity) =
      if isLost s identity p.1 then 1 else 0 := by
  have none : (renameWarnings p).countP (·.isFailureOf identity) = 0 := by
    rw [renameWarnings]
    split <;> rfl
  rw [List.countP_append, none, Nat.zero_add, failureWarnings]
  rw [isLost]
  cases (Plan.ofScreen p.1).emit s with
  | ok code => simp [Except.toBool]
  | error f => simp [Except.toBool, List.countP_cons, Warning.isFailureOf]

private theorem count_renamed (builder name : String) :
    (renameWarnings p ++ failureWarnings s p.1).count (.moduleRenamed builder name) =
      if (p.1.builderName == builder && p.2 == name && p.2 != p.1.moduleName) then 1 else 0 := by
  have none : (failureWarnings s p.1).count (.moduleRenamed builder name) = 0 := by
    rw [failureWarnings]
    split
    · rfl
    · exact List.count_eq_zero.mpr (by simp)
  rw [List.count_append, none, Nat.add_zero, renameWarnings]
  split
  · rename_i own
    simp [own]
  · rename_i other
    simp [List.count_cons, other]

end Outcomes

section Names

variable {d : Manifest.Discovery} {names : List String} {p : Screen × String}

theorem freeName_of_mem (h : Placed [] d.emittable names) (hp : p ∈ d.emittable.zip names) :
    ∃ taken, Naming.FreeName taken p.1.moduleName p.2 := by
  obtain ⟨i, hi⟩ := List.mem_iff_getElem?.mp hp
  obtain ⟨hs, hn⟩ := List.getElem?_zip_eq_some.mp hi
  exact ⟨_, h.freeName hs hn⟩

private theorem isForeign_mod : Naming.IsForeign "mod" := by decide

private theorem ne_moduleListName (h : Placed [] d.emittable names)
    (hp : p ∈ d.emittable.zip names) : p.2 ++ ".rs" ≠ moduleListName := by
  obtain ⟨taken, free⟩ := freeName_of_mem h hp
  intro same
  have split : p.2 ++ ".rs" = "mod" ++ ".rs" := same
  exact free.builder_ne_foreign isForeign_mod (String.append_left_inj ".rs" |>.mp split)

theorem of_fileOf? {s : Settings} {f : SourceFile} (h : fileOf? s p = some f) :
    f.name = p.2 ++ ".rs" ∧ (Plan.ofScreen p.1).emit s = .ok f.code := by
  rw [fileOf?] at h
  split at h
  · rename_i code emitted
    cases h
    exact ⟨rfl, emitted⟩
  · cases h

/-- The names of the files are among those of the modules, in order. -/
private theorem names_sublist (s : Settings) (pairs : List (Screen × String)) :
    List.Sublist ((pairs.filterMap (fileOf? s)).map (·.name)) (pairs.map fun p => p.2 ++ ".rs") := by
  induction pairs with
  | nil => exact .slnil
  | cons p rest ih =>
    rw [List.filterMap_cons]
    cases hf : fileOf? s p with
    | none => exact ih.cons _
    | some f =>
      rw [List.map_cons, List.map_cons, (of_fileOf? hf).1]
      exact ih.cons_cons _

private theorem fileNames_nodup (s : Settings) (h : Placed [] d.emittable names) :
    (((d.emittable.zip names).filterMap (fileOf? s)).map (·.name)).Nodup := by
  refine (names_sublist s _).nodup ?_
  have mapped : (d.emittable.zip names).map (fun p => p.2 ++ ".rs") = names.map (· ++ ".rs") :=
    calc
      _ = ((d.emittable.zip names).map Prod.snd).map (· ++ ".rs") := by rw [List.map_map]; rfl
      _ = _ := by rw [h.map_snd_zip]
  rw [mapped]
  exact h.nodup.map fun a b same => String.append_left_inj ".rs" |>.mp same

end Names

section Warnings

variable {d : Manifest.Discovery} {s : Settings} {names : List String}

private theorem countP_failures_all (h : Placed [] d.emittable names)
    (distinct : (d.screens.map (·.identity.text)).Nodup) {screen : Screen}
    (hs : screen ∈ d.screens) :
    ((d.emittable.zip names).flatMap fun p => renameWarnings p ++ failureWarnings s p.1).countP
        (·.isFailureOf screen.identity.text) =
      if screen.isAbstract = false ∧ ((Plan.ofScreen screen).emit s).toBool = false then 1
      else 0 := by
  rw [countP_flatMap_of_ite fun p => countP_failures s p _]
  calc (d.emittable.zip names).countP (fun p => isLost s screen.identity.text p.1)
    _ = ((d.emittable.zip names).map Prod.fst).countP (isLost s screen.identity.text) := by
      rw [List.countP_map]
      rfl
    _ = d.screens.countP fun t => isLost s screen.identity.text t && !t.isAbstract := by
      rw [h.map_fst_zip, Manifest.Discovery.emittable, List.countP_filter]
    _ = if (isLost s screen.identity.text screen && !screen.isAbstract) = true then 1 else 0 :=
      countP_of_key (·.identity.text) distinct hs fun t ht => by
        simp only [isLost, Bool.and_eq_true, beq_iff_eq] at ht
        exact ht.1.1
    _ = _ := by simp [isLost, and_comm]

private theorem count_renamed_all (h : Placed [] d.emittable names) {i : Nat} {screen : Screen}
    {name : String} (hs : d.emittable[i]? = some screen) (hn : names[i]? = some name) :
    ((d.emittable.zip names).flatMap fun p => renameWarnings p ++ failureWarnings s p.1).count
        (.moduleRenamed screen.builderName name) =
      if screen.moduleName ∈ names.take i then 1 else 0 := by
  have own := (h.freeName hs hn).eq_base_iff
  have listed : (screen, name) ∈ d.emittable.zip names :=
    List.mem_of_getElem? (List.getElem?_zip_eq_some.mpr ⟨hs, hn⟩)
  rw [List.count, countP_flatMap_of_ite fun p => count_renamed s p _ _,
    countP_of_key Prod.snd (by rw [h.map_snd_zip]; exact h.nodup) listed
      fun p hp => by
        simp only [Bool.and_eq_true, beq_iff_eq] at hp
        exact hp.1.2]
  by_cases taken : screen.moduleName ∈ names.take i
  · simp [taken, own]
  · simp [taken, own.mpr taken]

end Warnings

section Run

variable {d : Manifest.Discovery} {s : Settings} {names : List String}

theorem of_listing?_outcomeOf {p : Screen × String} {e : ModuleEntry}
    (h : (outcomeOf s p).listing? = some e) :
    e = ⟨p.2, p.1.builderName⟩ ∧ ∃ code, (Plan.ofScreen p.1).emit s = .ok code := by
  rw [Outcome.listing?] at h
  split at h
  · rename_i made
    rw [Option.some.injEq] at h
    refine ⟨h ▸ by rw [outcomeOf, Plan.ofScreen], ?_⟩
    cases emitted : (Plan.ofScreen p.1).emit s with
    | ok code => exact ⟨code, rfl⟩
    | error f => simp [Outcome.succeeded, outcomeOf, emitted, Except.toBool] at made
  · cases h

private theorem isReserved_eq_false {word : String} (h : ∀ other, Naming.IsForeign other → word ≠ other) :
    Source.isReserved word = false := by
  by_contra reserved
  have listed : word ∈ Source.reservedWords := by
    simpa [Source.isReserved] using reserved
  exact h word (Naming.isForeign_of_keyword word (List.mem_cons_of_mem _ listed)) rfl

/-- The list of modules can always be emitted. -/
private theorem modules_ok (h : Placed [] d.emittable names) :
    ∃ list, emitModules (((d.emittable.zip names).map (outcomeOf s)).filterMap (·.listing?)) s =
      .ok list := by
  have entry : ∀ e ∈ ((d.emittable.zip names).map (outcomeOf s)).filterMap (·.listing?),
      (Naming.isLegal e.module = true ∧ Naming.isLegal e.builder = true) ∧
        Source.isReserved e.module = false ∧ Source.isReserved e.builder = false := by
    intro e he
    obtain ⟨o, ho, listed⟩ := List.mem_filterMap.mp he
    obtain ⟨p, hp, rfl⟩ := List.mem_map.mp ho
    obtain ⟨rfl, code, emitted⟩ := of_listing?_outcomeOf listed
    obtain ⟨taken, free⟩ := freeName_of_mem h hp
    have module := (Naming.IsPlainName.ofFreeName free (Naming.moduleName_isPlainName _)).isLegal
    have builder := Plan.isLegal_of_emit emitted
    rw [Plan.name_ofScreen] at builder
    exact ⟨⟨module, builder⟩, isReserved_eq_false fun other foreign => free.builder_ne_foreign foreign,
      isReserved_eq_false fun other foreign => Naming.builderName_ne_foreign _ foreign⟩
  exact emitModules_ok s (fun e he => (entry e he).1) fun e he => (entry e he).2

theorem files_eq (same : outcomes d s = (d.emittable.zip names).map (outcomeOf s)) :
    (outcomes d s).filterMap (·.file?) = (d.emittable.zip names).filterMap (fileOf? s) := by
  rw [same, List.filterMap_map]
  rfl

theorem warnings_eq (same : outcomes d s = (d.emittable.zip names).map (outcomeOf s)) :
    (outcomes d s).flatMap (·.warnings) = (d.emittable.zip names).flatMap fun p =>
      renameWarnings p ++ failureWarnings s p.1 := by
  rw [same, List.flatMap_map]
  exact List.flatMap_congr fun p _ => warnings_outcomeOf s p

private theorem describes {list : String} (formed : d.WellFormed) (h : Placed [] d.emittable names)
    (same : outcomes d s = (d.emittable.zip names).map (outcomeOf s)) :
    Describes d s names ⟨(outcomes d s).filterMap (·.file?) ++ [⟨moduleListName, list⟩],
      statistics d (outcomes d s), (outcomes d s).flatMap (·.warnings)⟩ := by
  have others : ∀ f ∈ (d.emittable.zip names).filterMap (fileOf? s), f.name ≠ moduleListName := by
    intro f hf
    obtain ⟨p, hp, made⟩ := List.mem_filterMap.mp hf
    rw [(of_fileOf? made).1]
    exact ne_moduleListName h hp
  rw [files_eq same, warnings_eq same]
  refine ⟨h.length_eq, fun i screen name => h.freeName, ⟨list, rfl⟩, ?_, ?_, rfl, ?_, ?_⟩
  · rw [List.map_append, List.nodup_append]
    refine ⟨fileNames_nodup s h, List.nodup_singleton _, ?_⟩
    intro name hn other ho
    obtain ⟨f, hf, rfl⟩ := List.mem_map.mp hn
    rw [List.mem_singleton.mp ho]
    exact others f hf
  · rw [List.dropLast_concat]
    exact others
  · intro screen hs
    exact countP_failures_all h formed.identities hs
  · intro i screen name hs hn
    exact count_renamed_all h hs hn

private theorem illegalName?_outcomeOf {p : Screen × String} {name : String} :
    (outcomeOf s p).illegalName? = some name ↔
      (Plan.ofScreen p.1).emit s = .error (.illegalName name) := by
  rw [Outcome.illegalName?, outcomeOf]
  cases (Plan.ofScreen p.1).emit s with
  | ok code => simp
  | error f => cases f <;> simp

/-- A run is stopped by the illegal name of one concrete screen, or it makes all files it can. -/
theorem run_cases (d : Manifest.Discovery) (s : Settings) :
    (∃ names list, Placed [] d.emittable names ∧
      outcomes d s = (d.emittable.zip names).map (outcomeOf s) ∧
      run d s = .ok ⟨(outcomes d s).filterMap (·.file?) ++ [⟨moduleListName, list⟩],
        statistics d (outcomes d s), (outcomes d s).flatMap (·.warnings)⟩ ∧
      ∀ screen ∈ d.emittable, ∀ name, (Plan.ofScreen screen).emit s ≠ .error (.illegalName name)) ∨
    ∃ screen ∈ d.emittable, ∃ name, (Plan.ofScreen screen).emit s = .error (.illegalName name) ∧
      run d s = .error (.illegalName name) := by
  obtain ⟨names, placed, same⟩ := exists_placed d s
  have screens : ∀ {screen}, screen ∈ d.emittable ↔ ∃ p ∈ d.emittable.zip names, p.1 = screen := by
    intro screen
    rw [← List.mem_map, placed.map_fst_zip]
  cases stopped : (outcomes d s).findSome? (·.illegalName?) with
  | some name =>
    obtain ⟨o, ho, illegal⟩ := List.exists_of_findSome?_eq_some stopped
    rw [same] at ho
    obtain ⟨p, hp, rfl⟩ := List.mem_map.mp ho
    exact .inr ⟨p.1, screens.mpr ⟨p, hp, rfl⟩, name, illegalName?_outcomeOf.mp illegal,
      by simp only [run, stopped]⟩
  | none =>
    obtain ⟨list, listed⟩ := modules_ok (s := s) placed
    rw [← same] at listed
    refine .inl ⟨names, list, placed, same, by simp only [run, stopped, listed]; rfl, ?_⟩
    intro screen hs name illegal
    obtain ⟨p, hp, rfl⟩ := screens.mp hs
    have silent := List.findSome?_eq_none_iff.mp stopped (outcomeOf s p)
      (same ▸ List.mem_map.mpr ⟨p, hp, rfl⟩)
    rw [illegalName?_outcomeOf.mpr illegal] at silent
    cases silent

/-- The files of a run are those of its screens, with the list of modules behind them. -/
theorem files_of_run {out : Output} (h : run d s = .ok out) :
    ∃ list, emitModules ((outcomes d s).filterMap (·.listing?)) s = .ok list ∧
      out.files = (outcomes d s).filterMap (·.file?) ++ [⟨moduleListName, list⟩] := by
  rw [run] at h
  split at h
  · cases h
  · cases emitted : emitModules ((outcomes d s).filterMap (·.listing?)) s with
    | error f =>
      rw [emitted] at h
      cases h
    | ok list =>
      rw [emitted] at h
      cases h
      exact ⟨list, rfl, rfl⟩

/-- Whenever no illegal name stops a run, its files and warnings are those of the discovery. -/
theorem run_describes (m : Manifest) (check : Manifest.SubtypeCheck) (s : Settings)
    (legal : ∀ name, run (Manifest.discover m check) s ≠ .error (.illegalName name)) :
    ∃ names out, run (Manifest.discover m check) s = .ok out ∧
      Describes (Manifest.discover m check) s names out := by
  obtain ⟨names, list, placed, same, made, _⟩ | ⟨screen, _, name, _, stopped⟩ :=
    run_cases (Manifest.discover m check) s
  · exact ⟨names, _, made, describes (Manifest.discover_wellFormed m check) placed same⟩
  · exact absurd stopped (legal name)

theorem not_illegal_of_made {α : Type} {f : Output → α} {a : α}
    (made : ((run d s).map f).toOption = some a) (name : String) :
    run d s ≠ .error (.illegalName name) := by
  intro stopped
  rw [stopped] at made
  cases made

/-- Two screens of one name; two fields of the first one clash, so only its name stays behind. -/
def homes : Manifest where
  baseType := Manifest.defaultBaseType
  classes := [
    ⟨.of "crate::a::Home" (.ofNames ["crate", "a", "Home"]), none, .type, false,
      [Manifest.defaultBaseType]⟩,
    ⟨.of "crate::b::Home" (.ofNames ["crate", "b", "Home"]), none, .type, false,
      [Manifest.defaultBaseType]⟩]
  fields := [
    ⟨"crate::a::Home", .field, "userId", .string, false, none⟩,
    ⟨"crate::a::Home", .field, "user_id", .string, false, none⟩]

theorem run_describes_homes :
    (∀ name, run (Manifest.discover homes fun _ _ => true) (.standard "") ≠
      .error (.illegalName name)) ∧
    ∃ names out, run (Manifest.discover homes fun _ _ => true) (.standard "") = .ok out ∧
      Describes (Manifest.discover homes fun _ _ => true) (.standard "") names out := by
  have made : ((run (Manifest.discover homes fun _ _ => true) (.standard "")).map fun out =>
      (out.files.map (·.name), out.warnings.length)).toOption =
        some (["home_builder2.rs", "mod.rs"], 2) := by decide +kernel
  exact ⟨not_illegal_of_made made, run_describes homes _ _ (not_illegal_of_made made)⟩

end Run

end ScreenNavigation.Generation
