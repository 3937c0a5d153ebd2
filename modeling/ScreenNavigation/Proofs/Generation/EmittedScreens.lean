import Mathlib.Data.List.Forall2
import ScreenNavigation.Proofs.Generation.GeneratedFiles

/-! The concrete screens of a run that get a file, in order. All others are left out with a warning. -/
namespace ScreenNavigation.Generation

open Builder Declaration

/-- Whether the builder of a screen can be emitted on its own. -/
def emits (s : Settings) (screen : Screen) : Bool := ((Plan.ofScreen screen).emit s).toBool

/-- The screens of a discovery with a file, beside the names of their modules. -/
def made (d : Manifest.Discovery) (s : Settings) (names : List String) : List (Screen × String) :=
  (d.emittable.zip names).filter fun p => emits s p.1

theorem emits_iff {s : Settings} {screen : Screen} :
    emits s screen = true ↔ ∃ code, (Plan.ofScreen screen).emit s = .ok code := by
  rw [emits]
  cases (Plan.ofScreen screen).emit s with
  | ok code => simp [Except.toBool]
  | error f => simp [Except.toBool]

theorem emits_eq_false_iff {s : Settings} {screen : Screen} :
    emits s screen = false ↔ ∃ f, (Plan.ofScreen screen).emit s = .error f := by
  rw [emits]
  cases (Plan.ofScreen screen).emit s with
  | ok code => simp [Except.toBool]
  | error f => simp [Except.toBool]

theorem forall₂_filterMap {α β : Type} {f : α → Option β} {p : α → Bool} {l : List α}
    (same : ∀ a, (f a).isSome = p a) :
    List.Forall₂ (fun a b => f a = some b) (l.filter p) (l.filterMap f) := by
  induction l with
  | nil => exact .nil
  | cons a rest ih =>
    rw [List.filterMap_cons, List.filter_cons, ← same]
    cases found : f a with
    | none => exact ih
    | some b => exact .cons found ih

section Run

variable {d : Manifest.Discovery} {s : Settings} {names : List String}

theorem map_fst_made (h : Placed [] d.emittable names) :
    (made d s names).map Prod.fst = d.emittable.filter (emits s) :=
  calc (made d s names).map Prod.fst
    _ = ((d.emittable.zip names).map Prod.fst).filter (emits s) := by
      rw [List.filter_map]
      rfl
    _ = _ := by rw [h.map_fst_zip]

theorem filter_succeeded (same : outcomes d s = (d.emittable.zip names).map (outcomeOf s)) :
    (outcomes d s).filter (·.succeeded) = (made d s names).map (outcomeOf s) := by
  rw [same, List.filter_map]
  rfl

/-- The files of a run are those of its emitted screens, in order. -/
theorem files_of_made (same : outcomes d s = (d.emittable.zip names).map (outcomeOf s)) :
    List.Forall₂ (fun p f => f.name = p.2 ++ ".rs" ∧ (Plan.ofScreen p.1).emit s = .ok f.code)
      (made d s names) ((outcomes d s).filterMap (·.file?)) := by
  have some_iff (p : Screen × String) : (fileOf? s p).isSome = emits s p.1 := by
    rw [fileOf?, emits]
    cases (Plan.ofScreen p.1).emit s with
    | ok code => rfl
    | error f => rfl
  rw [files_eq same]
  exact (forall₂_filterMap some_iff).imp fun p f found => of_fileOf? found

theorem emitted_files (placed : Placed [] d.emittable names)
    (same : outcomes d s = (d.emittable.zip names).map (outcomeOf s)) :
    List.Forall₂ (fun screen f => (Plan.ofScreen screen).emit s = .ok f.code)
      (d.emittable.filter (emits s)) ((outcomes d s).filterMap (·.file?)) := by
  rw [← map_fst_made placed, List.forall₂_map_left_iff]
  exact (files_of_made same).imp fun p f file => file.2

theorem names_of_files (same : outcomes d s = (d.emittable.zip names).map (outcomeOf s)) :
    ((outcomes d s).filterMap (·.file?)).map (·.name) =
      (made d s names).map fun p => p.2 ++ ".rs" := by
  rw [← List.forall₂_eq_eq_eq, List.forall₂_map_left_iff, List.forall₂_map_right_iff]
  exact (files_of_made same).flip.imp fun f p file => file.1

end Run

end ScreenNavigation.Generation
