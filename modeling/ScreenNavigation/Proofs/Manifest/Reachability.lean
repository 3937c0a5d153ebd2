import Mathlib.Data.List.Perm.Basic
import Mathlib.Logic.Relation
import ScreenNavigation.Manifest.Supertypes

/-! The search for a base among declared supertypes. It finds the base exactly when a chain of
declarations leads to it, and it ends because no declaration is queued twice. -/
namespace ScreenNavigation.Manifest

open Declaration Relation

/-- Some entry for the first type lists the second among its supertypes. -/
def Declares (classes : List ClassEntry) (x y : String) : Prop :=
  ∃ c ∈ classes, c.identity.text = x ∧ ∃ t ∈ c.supertypes, t.text = y

/-- The order of entries does not matter, nor how often one stands there. -/
theorem Declares.congr {classes others : List ClassEntry} (same : ∀ c, c ∈ classes ↔ c ∈ others) :
    Declares classes = Declares others := by
  funext x y
  simp only [Declares, same]

namespace Supertypes

/-- The second type is a declared supertype of the first. -/
def Step (s : Supertypes) (x y : String) : Prop := y ∈ s.parents x

theorem step_ofClasses (classes : List ClassEntry) : (ofClasses classes).Step = Declares classes := by
  funext x y
  simp only [Step, parents, ofClasses, Declares, List.mem_flatMap, List.mem_filter, List.mem_map,
    beq_iff_eq, eq_iff_iff]
  constructor
  · rintro ⟨_, ⟨⟨c, hc, rfl⟩, named⟩, listed⟩
    exact ⟨c, hc, named, List.mem_map.mp listed⟩
  · rintro ⟨c, hc, named, listed⟩
    exact ⟨_, ⟨⟨c, hc, rfl⟩, named⟩, List.mem_map.mpr listed⟩

variable {s : Supertypes} {base name : String} {visited queue rest : List String}

section Search

/-- What holds whenever the search takes the next type from its queue. -/
structure Explored (s : Supertypes) (base : String) (visited queue : List String) : Prop where
  base_new : base ∉ visited
  /-- Supertypes of visited types were visited as well or still wait. -/
  closed : ∀ x ∈ visited, ∀ y, s.Step x y → y ∈ visited ∨ y ∈ queue

theorem explored_start (s : Supertypes) (base : String) (queue : List String) :
    Explored s base [] queue := ⟨List.not_mem_nil, nofun⟩

theorem Explored.skip (h : Explored s base visited (name :: rest)) (known : name ∈ visited) :
    Explored s base visited rest where
  base_new := h.base_new
  closed := by
    intro x hx y step
    rcases h.closed x hx y step with seen | waiting
    · exact .inl seen
    · rcases List.mem_cons.mp waiting with rfl | later
      · exact .inl known
      · exact .inr later

theorem Explored.visit (h : Explored s base visited (name :: rest)) (other : name ≠ base) :
    Explored s base (name :: visited) (rest ++ s.parents name) where
  base_new := List.not_mem_cons_of_ne_of_not_mem other.symm h.base_new
  closed := by
    intro x hx y step
    rcases List.mem_cons.mp hx with rfl | old
    · exact .inr (List.mem_append_right _ step)
    · rcases h.closed x old y step with seen | waiting
      · exact .inl (List.mem_cons_of_mem _ seen)
      · rcases List.mem_cons.mp waiting with rfl | later
        · exact .inl List.mem_cons_self
        · exact .inr (List.mem_append_left _ later)

/-- A chain from a visited type to the base leaves the visited types through the queue. -/
theorem Explored.exists_waiting (h : Explored s base visited queue) {x : String}
    (chain : ReflTransGen s.Step x base) (seen : x ∈ visited) :
    ∃ y ∈ queue, ReflTransGen s.Step y base := by
  induction chain using ReflTransGen.head_induction_on with
  | refl => exact absurd seen h.base_new
  | head step behind ih =>
    rcases h.closed _ seen _ step with next | waiting
    · exact ih next
    · exact ⟨_, waiting, behind⟩

theorem reaches_iff (h : Explored s base visited queue) :
    s.reaches base visited queue = true ↔ ∃ x ∈ queue, ReflTransGen s.Step x base := by
  fun_induction reaches s base visited queue with
  | case1 visited => simp
  | case2 visited rest => exact iff_of_true rfl ⟨base, List.mem_cons_self, .refl⟩
  | case3 visited name rest other known ih =>
    have known : name ∈ visited := List.contains_iff_mem.mp known
    have skipped := h.skip known
    -- nothing is lost: a chain from the visited type comes through the rest of the queue
    rw [ih skipped]
    constructor
    · rintro ⟨x, hx, chain⟩
      exact ⟨x, List.mem_cons_of_mem _ hx, chain⟩
    · rintro ⟨x, hx, chain⟩
      rcases List.mem_cons.mp hx with rfl | later
      · exact skipped.exists_waiting chain known
      · exact ⟨x, later, chain⟩
  | case4 visited name rest other new ih =>
    rw [ih (h.visit other)]
    constructor
    · rintro ⟨x, hx, chain⟩
      rcases List.mem_append.mp hx with later | parent
      · exact ⟨x, List.mem_cons_of_mem _ later, chain⟩
      · exact ⟨name, List.mem_cons_self, .head parent chain⟩
    · rintro ⟨x, hx, chain⟩
      rcases List.mem_cons.mp hx with rfl | later
      · rcases chain.cases_head with same | ⟨y, step, behind⟩
        · exact absurd same other
        · exact ⟨y, List.mem_append_right _ step, behind⟩
      · exact ⟨x, List.mem_append_left _ later, chain⟩

end Search

section Rounds

/-- The search as a loop of at most `n` rounds, each of which takes one type from the queue; none where
it would go on. -/
def reachesWithin (s : Supertypes) (base : String) :
    Nat → List String → List String → Option Bool
  | _, _, [] => some false
  | 0, _, _ :: _ => none
  | n + 1, visited, name :: rest =>
    if name = base then some true
    else if visited.contains name then s.reachesWithin base n visited rest
    else s.reachesWithin base n (name :: visited) (rest ++ s.parents name)

/-- The declared supertypes that can still come into the queue. -/
def awaited (s : Supertypes) (visited : List String) : List String := (s.pending visited).flatMap (·.2)

theorem length_awaited (new : name ∉ visited) :
    (s.awaited visited).length = (s.awaited (name :: visited)).length + (s.parents name).length := by
  have own : s.filter (·.1 == name) = (s.pending visited).filter (·.1 == name) := by
    rw [pending, List.filter_filter]
    refine List.filter_congr fun d _ => ?_
    by_cases same : d.1 = name
    · simp [same, new]
    · simp [same]
  have others : s.pending (name :: visited) = (s.pending visited).filter (fun d => !(d.1 == name)) := by
    rw [pending, pending, List.filter_filter]
    refine List.filter_congr fun d _ => ?_
    rw [List.contains_cons, Bool.not_or]
  -- the visited type's own declarations are no longer pending, all others are
  have split := (List.filter_append_perm (·.1 == name) (s.pending visited)).flatMap_right (·.2)
  have lengths := split.length_eq
  rw [List.flatMap_append, List.length_append, ← own, ← others] at lengths
  rw [awaited, awaited, parents]
  omega

/-- Every round takes one type from the queue, and a declared supertype comes in at most once. -/
theorem reachesWithin_eq {n : Nat} (enough : (s.awaited visited).length + queue.length ≤ n) :
    s.reachesWithin base n visited queue = some (s.reaches base visited queue) := by
  fun_induction reaches s base visited queue generalizing n with
  | case1 visited => cases n <;> rfl
  | case2 visited rest =>
    rw [List.length_cons] at enough
    obtain ⟨n, rfl⟩ : ∃ m, n = m + 1 := Nat.exists_eq_add_one.mpr (by omega)
    rw [reachesWithin, if_pos rfl]
  | case3 visited name rest other known ih =>
    rw [List.length_cons] at enough
    obtain ⟨n, rfl⟩ : ∃ m, n = m + 1 := Nat.exists_eq_add_one.mpr (by omega)
    rw [reachesWithin, if_neg other, if_pos known, ih (by omega)]
  | case4 visited name rest other new ih =>
    have fresh : name ∉ visited := fun known => new (List.contains_iff_mem.mpr known)
    have fewer := length_awaited (s := s) fresh
    rw [List.length_cons] at enough
    obtain ⟨n, rfl⟩ : ∃ m, n = m + 1 := Nat.exists_eq_add_one.mpr (by omega)
    rw [reachesWithin, if_neg other, if_neg new, ih (by rw [List.length_append]; omega)]

theorem length_awaited_ofClasses (classes : List ClassEntry) :
    ((ofClasses classes).awaited []).length = (classes.flatMap (·.supertypes)).length := by
  have all : (ofClasses classes).pending [] = ofClasses classes := by simp [pending]
  rw [awaited, all, ofClasses, List.flatMap_map, ← List.map_flatMap, List.length_map]

end Rounds

/-- Subtypes of a base are the types from which declarations lead to it. -/
theorem isSubtype_iff (classes : List ClassEntry) (candidate base : TypePath) :
    (ofClasses classes).isSubtype candidate base = true ↔
      ReflTransGen (Declares classes) candidate.text base.text := by
  rw [isSubtype, reaches_iff (explored_start _ _ _), step_ofClasses]
  simp only [List.mem_singleton, exists_eq_left]

private theorem reachesWithin_ofClasses (classes : List ClassEntry) (candidate base : TypePath) :
    (ofClasses classes).reachesWithin base.text ((classes.flatMap (·.supertypes)).length + 1) []
      [candidate.text] = some ((ofClasses classes).isSubtype candidate base) :=
  reachesWithin_eq (Nat.le_of_eq (by rw [length_awaited_ofClasses, List.length_singleton]))

theorem isSubtype_eq_reachesWithin (classes : List ClassEntry) :
    (ofClasses classes).isSubtype = fun candidate base =>
      ((ofClasses classes).reachesWithin base.text ((classes.flatMap (·.supertypes)).length + 1) []
        [candidate.text]).getD false := by
  funext candidate base
  rw [reachesWithin_ofClasses, Option.getD_some]

/-- The search answers after at most one round for each declared supertype and one for the candidate,
and its answer tells whether declarations lead from the candidate to the base in any number of steps. -/
theorem isSubtype_decides_reachability (classes : List ClassEntry) (candidate base : TypePath) :
    (ofClasses classes).reachesWithin base.text ((classes.flatMap (·.supertypes)).length + 1) []
        [candidate.text] = some ((ofClasses classes).isSubtype candidate base) ∧
      ((ofClasses classes).isSubtype candidate base = true ↔
        ReflTransGen (Declares classes) candidate.text base.text) :=
  ⟨reachesWithin_ofClasses classes candidate base, isSubtype_iff classes candidate base⟩

end Supertypes

end ScreenNavigation.Manifest
