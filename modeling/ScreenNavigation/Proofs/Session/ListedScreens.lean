import ScreenNavigation.Proofs.Generation.EmittedScreens
import ScreenNavigation.Proofs.Manifest.Reachability
import ScreenNavigation.Session.Recording

/-! What a listing says about the screens of a manifest, beside what a run does with them. The listing knows
what is declared only, so it promises a builder also to a screen that is left out. -/
namespace ScreenNavigation.Session

open Builder Declaration Generation Terminal

/-- The rows of a table that start with an identity. -/
def rowsOf (t : Table) (identity : String) : List (List Cell) :=
  t.rows.filter fun cells => cells.head? == some ⟨identity, false⟩

/-- A screen has rows, and each of them ends with the status. -/
def IsMarked (t : Table) (identity status : String) : Prop :=
  rowsOf t identity ≠ [] ∧ ∀ cells ∈ rowsOf t identity, cells.getLast? = some ⟨status, true⟩

/-- The screen with the identity has a file under the name of its module. -/
def HasFile (d : Manifest.Discovery) (s : Settings) (names : List String) (out : Output)
    (identity : String) : Prop :=
  ∃ p ∈ d.emittable.zip names, p.1.identity.text = identity ∧
    ∃ f ∈ out.files, f.name = p.2 ++ ".rs" ∧ (Plan.ofScreen p.1).emit s = .ok f.code

def IsLeftOut (out : Output) (identity : String) : Prop :=
  ∃ message, .emissionFailed identity message ∈ out.warnings

/-- A table of the screens of a discovery, and a run over it whose modules have the names. -/
structure Agrees (d : Manifest.Discovery) (s : Settings) (names : List String) (t : Table)
    (out : Output) : Prop where
  placed : Placed [] d.emittable names
  fields : ∀ screen ∈ d.screens, (rowsOf t screen.identity.text).map (·[1]?) =
    (if screen.fields.isEmpty then ["-"] else screen.fields.map (·.key)).map fun text => some ⟨text, false⟩
  listed : ∀ cells ∈ t.rows, ∃ screen ∈ d.screens, cells ∈ rowsOf t screen.identity.text
  abstract_iff : ∀ identity, IsMarked t identity "abstract" ↔
    ∃ screen ∈ d.screens, screen.identity.text = identity ∧ screen.isAbstract = true
  concrete_iff : ∀ identity, IsMarked t identity "emitted" ↔
    ∃ screen ∈ d.screens, screen.identity.text = identity ∧ screen.isAbstract = false
  /-- A screen that is marked as emitted may be left out. -/
  emitted_iff : ∀ identity, IsMarked t identity "emitted" ↔
    HasFile d s names out identity ∨ IsLeftOut out identity
  apart : ∀ identity, ¬ (HasFile d s names out identity ∧ IsLeftOut out identity)

section Rows

variable {d : Manifest.Discovery}

private theorem flatMap_of_key {α β κ : Type} [DecidableEq κ] (key : α → κ) {l : List α}
    (distinct : (l.map key).Nodup) {a : α} (ha : a ∈ l) (f : α → List β) :
    (l.flatMap fun b => if key b = key a then f b else []) = f a := by
  induction l with
  | nil => cases ha
  | cons b rest ih =>
    obtain ⟨apart, later⟩ := List.nodup_cons.mp distinct
    rw [List.flatMap_cons]
    rcases List.mem_cons.mp ha with rfl | behind
    · have others : (rest.flatMap fun b => if key b = key a then f b else []) = [] :=
        List.flatMap_eq_nil_iff.mpr fun b hb =>
          if_neg fun same => apart (List.mem_map.mpr ⟨b, hb, same⟩)
      rw [if_pos rfl, others, List.append_nil]
    · have other : key b ≠ key a := fun same => apart (List.mem_map.mpr ⟨a, behind, same.symm⟩)
      rw [if_neg other, ih later behind, List.nil_append]

private theorem filter_screenRows (screen : Screen) (identity : String) :
    (screenRows screen).filter (fun cells => cells.head? == some ⟨identity, false⟩) =
      if screen.identity.text = identity then screenRows screen else [] := by
  split
  · rename_i same
    refine List.filter_eq_self.mpr fun cells hc => ?_
    rw [(ends_of_mem_screenRows hc).1, same, beq_iff_eq]
  · rename_i other
    refine List.filter_eq_nil_iff.mpr fun cells hc => ?_
    rw [(ends_of_mem_screenRows hc).1, beq_iff_eq]
    simpa using other

theorem rowsOf_listing (distinct : (d.screens.map (·.identity.text)).Nodup) {screen : Screen}
    (hs : screen ∈ d.screens) : rowsOf (listing d) screen.identity.text = screenRows screen := by
  rw [rowsOf, listing, List.filter_flatMap]
  simp only [filter_screenRows]
  exact flatMap_of_key (·.identity.text) distinct hs screenRows

private theorem screenRows_ne_nil (screen : Screen) : screenRows screen ≠ [] := by
  rw [screenRows]
  split
  · exact List.cons_ne_nil _ _
  · rename_i filled
    simpa [List.isEmpty_iff] using filled

/-- The status of a screen tells whether it is abstract, and no more. -/
theorem isMarked_listing_iff (distinct : (d.screens.map (·.identity.text)).Nodup)
    (identity status : String) : IsMarked (listing d) identity status ↔
      ∃ screen ∈ d.screens, screen.identity.text = identity ∧
        (if screen.isAbstract then "abstract" else "emitted") = status := by
  constructor
  · rintro ⟨some_row, same⟩
    obtain ⟨cells, hc⟩ := List.exists_mem_of_ne_nil _ some_row
    have last := same cells hc
    obtain ⟨inside, first⟩ := List.mem_filter.mp hc
    obtain ⟨screen, hs, row⟩ := List.mem_flatMap.mp inside
    obtain ⟨head, status⟩ := ends_of_mem_screenRows row
    rw [head, beq_iff_eq, Option.some.injEq, Cell.mk.injEq] at first
    rw [status, Option.some.injEq, Cell.mk.injEq] at last
    exact ⟨screen, hs, first.1, last.1⟩
  · rintro ⟨screen, hs, rfl, rfl⟩
    rw [IsMarked, rowsOf_listing distinct hs]
    exact ⟨screenRows_ne_nil screen, fun cells hc => (ends_of_mem_screenRows hc).2⟩

theorem isMarked_abstract_iff (distinct : (d.screens.map (·.identity.text)).Nodup) (identity : String) :
    IsMarked (listing d) identity "abstract" ↔
      ∃ screen ∈ d.screens, screen.identity.text = identity ∧ screen.isAbstract = true := by
  rw [isMarked_listing_iff distinct]
  refine exists_congr fun screen => and_congr_right fun _ => and_congr_right fun _ => ?_
  cases screen.isAbstract <;> decide

theorem isMarked_emitted_iff (distinct : (d.screens.map (·.identity.text)).Nodup) (identity : String) :
    IsMarked (listing d) identity "emitted" ↔
      ∃ screen ∈ d.screens, screen.identity.text = identity ∧ screen.isAbstract = false := by
  rw [isMarked_listing_iff distinct]
  refine exists_congr fun screen => and_congr_right fun _ => and_congr_right fun _ => ?_
  cases screen.isAbstract <;> decide

end Rows

section Run

variable {d : Manifest.Discovery} {s : Settings} {names : List String} {out : Output}

private theorem exists_pair (placed : Placed [] d.emittable names) {screen : Screen}
    (hs : screen ∈ d.emittable) : ∃ p ∈ d.emittable.zip names, p.1 = screen := by
  rw [← placed.map_fst_zip] at hs
  exact List.mem_map.mp hs

theorem hasFile_iff (placed : Placed [] d.emittable names)
    (files : ∀ f, f ∈ (d.emittable.zip names).filterMap (fileOf? s) → f ∈ out.files) (identity : String) :
    HasFile d s names out identity ↔
      ∃ screen ∈ d.emittable, screen.identity.text = identity ∧ emits s screen = true := by
  constructor
  · rintro ⟨p, hp, same, f, _, _, emitted⟩
    exact ⟨p.1, (List.of_mem_zip hp).1, same, emits_iff.mpr ⟨f.code, emitted⟩⟩
  · rintro ⟨screen, hs, same, emitted⟩
    obtain ⟨p, hp, rfl⟩ := exists_pair placed hs
    obtain ⟨code, emitted⟩ := emits_iff.mp emitted
    have file : fileOf? s p = some ⟨p.2 ++ ".rs", code⟩ := by rw [fileOf?, emitted]
    exact ⟨p, hp, same, _, files _ (List.mem_filterMap.mpr ⟨p, hp, file⟩), rfl, emitted⟩

theorem isLeftOut_iff (placed : Placed [] d.emittable names)
    (warnings : out.warnings = (d.emittable.zip names).flatMap fun p =>
      renameWarnings p ++ failureWarnings s p.1) (identity : String) :
    IsLeftOut out identity ↔
      ∃ screen ∈ d.emittable, screen.identity.text = identity ∧ emits s screen = false := by
  constructor
  · rintro ⟨message, warned⟩
    rw [warnings] at warned
    obtain ⟨p, hp, warned⟩ := List.mem_flatMap.mp warned
    refine ⟨p.1, (List.of_mem_zip hp).1, ?_⟩
    rcases List.mem_append.mp warned with renamed | failed
    · rw [renameWarnings] at renamed
      split at renamed
      · cases renamed
      · cases List.mem_singleton.mp renamed
    · rw [failureWarnings] at failed
      split at failed
      · cases failed
      · rename_i f emitted
        cases List.mem_singleton.mp failed
        exact ⟨rfl, emits_eq_false_iff.mpr ⟨f, emitted⟩⟩
  · rintro ⟨screen, hs, rfl, failed⟩
    obtain ⟨p, hp, rfl⟩ := exists_pair placed hs
    obtain ⟨f, failed⟩ := emits_eq_false_iff.mp failed
    refine ⟨f.message, ?_⟩
    rw [warnings]
    refine List.mem_flatMap.mpr ⟨p, hp, List.mem_append_right _ ?_⟩
    rw [failureWarnings, failed]
    exact List.mem_singleton_self _

private theorem mem_emittable {screen : Screen} :
    screen ∈ d.emittable ↔ screen ∈ d.screens ∧ screen.isAbstract = false := by
  rw [Manifest.Discovery.emittable, List.mem_filter, Bool.not_eq_true']

private theorem agrees (formed : d.WellFormed) (placed : Placed [] d.emittable names)
    (files : ∀ f, f ∈ (d.emittable.zip names).filterMap (fileOf? s) → f ∈ out.files)
    (warnings : out.warnings = (d.emittable.zip names).flatMap fun p =>
      renameWarnings p ++ failureWarnings s p.1) :
    Agrees d s names (listing d) out where
  placed := placed
  fields screen hs := by rw [rowsOf_listing formed.identities hs, screenRows_fields]
  listed cells hc := by
    obtain ⟨screen, hs, row⟩ := List.mem_flatMap.mp hc
    exact ⟨screen, hs, rowsOf_listing formed.identities hs ▸ row⟩
  abstract_iff := isMarked_abstract_iff formed.identities
  concrete_iff := isMarked_emitted_iff formed.identities
  emitted_iff identity := by
    rw [hasFile_iff placed files, isLeftOut_iff placed warnings, isMarked_emitted_iff formed.identities]
    constructor
    · rintro ⟨screen, hs, same, concrete⟩
      have found := mem_emittable.mpr ⟨hs, concrete⟩
      cases made : emits s screen with
      | true => exact .inl ⟨screen, found, same, made⟩
      | false => exact .inr ⟨screen, found, same, made⟩
    · rintro (⟨screen, found, same, _⟩ | ⟨screen, found, same, _⟩)
      · exact ⟨screen, (mem_emittable.mp found).1, same, (mem_emittable.mp found).2⟩
      · exact ⟨screen, (mem_emittable.mp found).1, same, (mem_emittable.mp found).2⟩
  apart identity := by
    rw [hasFile_iff placed files, isLeftOut_iff placed warnings]
    rintro ⟨⟨screen, hs, rfl, made⟩, other, ho, same, failed⟩
    have alike := List.inj_on_of_nodup_map formed.identities (mem_emittable.mp ho).1
      (mem_emittable.mp hs).1 same
    rw [alike, made] at failed
    cases failed

/-- A listing names all screens of a manifest with their fields. Whenever no illegal name stops a run over
the same screens, those that are marked as emitted are the ones with a file and the ones that are left out. -/
theorem list_agrees_with_run {r : Recording} {input text : String} {m : Manifest}
    (opened : r.files.read input = .ok text) (read : Manifest.read text = .ok m) (s : Settings)
    (legal : ∀ name, Generation.run (Manifest.discover m m.declaredSubtypes) s ≠
      .error (.illegalName name)) (time : String) (width : Nat) :
    ∃ table names out,
      (list (Recording.surroundings time) width input).run.run r =
        (.ok (), { r with output := r.output ++ [table.render width] }) ∧
      Generation.run (Manifest.discover m m.declaredSubtypes) s = .ok out ∧
      Agrees (Manifest.discover m m.declaredSubtypes) s names table out := by
  have formed := Manifest.discover_wellFormed m m.declaredSubtypes
  obtain ⟨names, list, placed, same, made, _⟩ | ⟨screen, _, name, _, stopped⟩ :=
    run_cases (Manifest.discover m m.declaredSubtypes) s
  · refine ⟨_, names, _, Recording.run_list_of_read opened read width, made,
      agrees formed placed (fun f hf => ?_) (warnings_eq same)⟩
    exact List.mem_append_left _ (files_eq same ▸ hf)
  · exact absurd stopped (legal name)

/-- The optional field of the first screen has the name of a method. -/
def shopManifest : String :=
  "\x7b\"base_type\":\"S\",\"classes\":[\x7b\"identity\":\"Cart\",\"supertypes\":[\"S\"]\x7d,\x7b\"identity\":\"Home\",\"supertypes\":[\"S\"]\x7d],\"fields\":[\x7b\"enclosing\":\"Cart\",\"name\":\"start\",\"type\":\x7b\"kind\":\"string\"\x7d,\"default\":true\x7d]\x7d"

/-- Surroundings with the manifest as their only file. -/
def shop : Recording where
  files := ⟨[(["m"], .file shopManifest)]⟩

-- The search by its own rounds, which the kernel can follow.
private def searched (m : Manifest) : Manifest.SubtypeCheck := fun candidate base =>
  ((Manifest.Supertypes.ofClasses m.classes).reachesWithin base.text
    ((m.classes.flatMap (·.supertypes)).length + 1) [] [candidate.text]).getD false

private theorem searched_eq (m : Manifest) : searched m = m.declaredSubtypes :=
  (Manifest.Supertypes.isSubtype_eq_reachesWithin m.classes).symm

/-- The screens of a manifest, each with whether its builder can be emitted, and the names of the files. -/
private def emittedOf? (text : String) : Option (List (String × Bool) × List String) :=
  match Manifest.read text with
  | .ok m =>
    match Generation.run (Manifest.discover m (searched m)) (.standard "m") with
    | .ok out => some ((Manifest.discover m (searched m)).emittable.map
        fun t => (t.identity.text, emits (.standard "m") t), out.files.map (·.name))
    | .error _ => none
  | .error _ => none

private theorem shop_opened : shop.files.read "m" = .ok shopManifest := by
  have whole : "m".splitOn "/" = ["m"] := by
    rw [String.splitOn, if_neg (by decide)]
    rw [String.splitOnAux, if_neg (by decide), if_neg (by decide)]
    rw [String.splitOnAux, if_pos (by decide)]
    decide
  have names : Files.names "m" = ["m"] := by
    rw [Files.names, whole]
    decide
  have plain : "m".endsWith "/" = false := by decide +kernel
  rw [Files.Tree.read, names, plain]
  rfl

private theorem exists_shop : ∃ m out, Manifest.read shopManifest = .ok m ∧
    Generation.run (Manifest.discover m m.declaredSubtypes) (.standard "m") = .ok out ∧
    (Manifest.discover m m.declaredSubtypes).emittable.map
      (fun t => (t.identity.text, emits (.standard "m") t)) = [("Cart", false), ("Home", true)] ∧
    out.files.map (·.name) = ["home_builder.rs", "mod.rs"] := by
  have found : emittedOf? shopManifest =
      some ([("Cart", false), ("Home", true)], ["home_builder.rs", "mod.rs"]) := by decide +kernel
  rw [emittedOf?] at found
  split at found
  · rename_i m read
    rw [searched_eq] at found
    split at found
    · rename_i out made
      rw [Option.some.injEq, Prod.mk.injEq] at found
      exact ⟨m, out, read, made, found⟩
    · cases found
  · cases found

theorem list_agrees_with_run_shop : ∃ m, shop.files.read "m" = .ok shopManifest ∧
    Manifest.read shopManifest = .ok m ∧
    (∀ name, Generation.run (Manifest.discover m m.declaredSubtypes) (.standard "m") ≠
      .error (.illegalName name)) ∧
    ∃ table names out,
      (list (Recording.surroundings "00:00:00") 80 "m").run.run shop =
        (.ok (), { shop with output := shop.output ++ [table.render 80] }) ∧
      Generation.run (Manifest.discover m m.declaredSubtypes) (.standard "m") = .ok out ∧
      Agrees (Manifest.discover m m.declaredSubtypes) (.standard "m") names table out := by
  obtain ⟨m, out, read, made, _⟩ := exists_shop
  have legal : ∀ name, Generation.run (Manifest.discover m m.declaredSubtypes) (.standard "m") ≠
      .error (.illegalName name) := by
    intro name stopped
    rw [made] at stopped
    cases stopped
  exact ⟨m, shop_opened, read, legal, list_agrees_with_run shop_opened read _ legal _ _⟩

/-- The first screen is marked as emitted, and no file is made for it. -/
theorem list_marks_left_out : ∃ m table out, Manifest.read shopManifest = .ok m ∧
    (list (Recording.surroundings "00:00:00") 80 "m").run.run shop =
      (.ok (), { shop with output := [table.render 80] }) ∧
    Generation.run (Manifest.discover m m.declaredSubtypes) (.standard "m") = .ok out ∧
    table = listing (Manifest.discover m m.declaredSubtypes) ∧ IsMarked table "Cart" "emitted" ∧
    out.files.map (·.name) = ["home_builder.rs", "mod.rs"] ∧
    ∀ names, ¬ HasFile (Manifest.discover m m.declaredSubtypes) (.standard "m") names out "Cart" := by
  obtain ⟨m, out, read, made, screens, files⟩ := exists_shop
  have formed := Manifest.discover_wellFormed m m.declaredSubtypes
  refine ⟨m, _, out, read, Recording.run_list_of_read shop_opened read 80, made, rfl, ?_, files, ?_⟩
  · rw [isMarked_emitted_iff formed.identities]
    have listed : ("Cart", false) ∈ (Manifest.discover m m.declaredSubtypes).emittable.map
        fun t => (t.identity.text, emits (.standard "m") t) := screens ▸ List.mem_cons_self
    obtain ⟨screen, found, same⟩ := List.mem_map.mp listed
    obtain ⟨hs, concrete⟩ := mem_emittable.mp found
    exact ⟨screen, hs, congrArg Prod.fst same, concrete⟩
  · rintro names ⟨p, hp, same, f, _, _, emitted⟩
    have listed := List.mem_map_of_mem (f := fun t : Screen => (t.identity.text, emits (.standard "m") t))
      (List.of_mem_zip hp).1
    rw [screens, same, emits_iff.mpr ⟨f.code, emitted⟩] at listed
    exact absurd listed (by decide)

end Run

end ScreenNavigation.Session
