import ScreenNavigation.Generation.Outcome
import ScreenNavigation.Proofs.Builder.EmissionFaults
import ScreenNavigation.Proofs.Naming.FreeName

/-! The names of the modules of a run. Each name is chosen beside all earlier ones, and nothing else that
becomes of a screen depends on the screens before it. -/
namespace ScreenNavigation.Generation

open Builder Declaration

/-- Names for the modules of screens in order, beside names that are taken already. -/
inductive Placed : List String → List Screen → List String → Prop where
  | nil {taken : List String} : Placed taken [] []
  | cons {taken names : List String} {screens : List Screen} {screen : Screen} {name : String}
      (free : Naming.FreeName taken screen.moduleName name)
      (later : Placed (name :: taken) screens names) :
      Placed taken (screen :: screens) (name :: names)

namespace Placed

variable {taken names : List String} {screens : List Screen}

/-- Only the modules of the screens count. -/
theorem freeNames (h : Placed taken screens names) :
    Naming.FreeNames taken (screens.map (·.moduleName)) names := by
  induction h with
  | nil => exact .nil
  | cons free later ih => exact .cons free ih

theorem length_eq (h : Placed taken screens names) : names.length = screens.length := by
  rw [h.freeNames.length_eq, List.length_map]

theorem nodup (h : Placed taken screens names) : names.Nodup := h.freeNames.nodup

theorem map_fst_zip (h : Placed taken screens names) : (screens.zip names).map Prod.fst = screens :=
  List.map_fst_zip (Nat.le_of_eq h.length_eq.symm)

theorem map_snd_zip (h : Placed taken screens names) : (screens.zip names).map Prod.snd = names :=
  List.map_snd_zip (Nat.le_of_eq h.length_eq)

/-- Where nothing is taken at first, a name stands beside all earlier ones. -/
theorem freeName (h : Placed [] screens names) {i : Nat} {screen : Screen} {name : String}
    (hs : screens[i]? = some screen) (hn : names[i]? = some name) :
    Naming.FreeName (names.take i) screen.moduleName name :=
  h.freeNames.freeName (by rw [List.getElem?_map, hs]; rfl) hn

end Placed

/-- What becomes of a screen whose module has the name. -/
def outcomeOf (s : Settings) (p : Screen × String) : Outcome :=
  ⟨⟨p.1, { Plan.ofScreen p.1 with module := p.2 }, p.2 != p.1.moduleName⟩,
    (Plan.ofScreen p.1).emit s⟩

private theorem plans_eq {screens : List Screen} (h : ∀ t ∈ screens, t.isAbstract = false) :
    (screens.filterMap fun t => (Plan.ofScreen? t).map (t, ·)) =
      screens.map fun t => (t, Plan.ofScreen t) := by
  rw [← List.filterMap_eq_map]
  refine List.filterMap_congr fun t ht => ?_
  rw [Plan.ofScreen?, h t ht]
  rfl

private theorem assign_placed (s : Settings) (screens : List Screen) (taken : List String) :
    ∃ names, Placed taken screens names ∧
      ((assign taken (screens.map fun t => (t, Plan.ofScreen t))).map fun j =>
          (⟨j, j.plan.emit s⟩ : Outcome)) = (screens.zip names).map (outcomeOf s) := by
  induction screens generalizing taken with
  | nil => exact ⟨[], .nil, rfl⟩
  | cons screen rest ih =>
    have free := Naming.unique_freeName screen.moduleName taken
    obtain ⟨names, later, same⟩ := ih (Naming.unique screen.moduleName taken :: taken)
    refine ⟨_ :: names, .cons free later, ?_⟩
    rw [List.map_cons, assign, List.map_cons, List.zip_cons_cons, List.map_cons, ← same, outcomeOf,
      Plan.emit_module, Plan.module_ofScreen]

/-- The outcomes of a run are those of its concrete screens, each with the name of its module. -/
theorem exists_placed (d : Manifest.Discovery) (s : Settings) :
    ∃ names, Placed [] d.emittable names ∧
      outcomes d s = (d.emittable.zip names).map (outcomeOf s) := by
  have concrete : ∀ t ∈ d.emittable, t.isAbstract = false := fun t ht => by
    simpa using (List.mem_filter.mp ht).2
  obtain ⟨names, placed, same⟩ := assign_placed s d.emittable []
  exact ⟨names, placed, by rw [outcomes, jobs, plans_eq concrete, same]⟩

end ScreenNavigation.Generation
