import ScreenNavigation.Manifest.Entry

/-!
Supertypes declared in a manifest. A type is a subtype of a base when the base is reached from it
over declared supertypes, in any number of steps.
-/
namespace ScreenNavigation.Manifest

open Declaration

/-- Declared supertypes by the text of the class; a class may be declared more than once. -/
abbrev Supertypes := List (String × List String)

namespace Supertypes

def ofClasses (classes : List ClassEntry) : Supertypes :=
  classes.map fun c => (c.identity.text, c.supertypes.map (·.text))

/-- All supertypes declared for a type. -/
def parents (s : Supertypes) (name : String) : List String :=
  (s.filter (·.1 == name)).flatMap (·.2)

/-- The declarations of types that were not visited yet. -/
def pending (s : Supertypes) (visited : List String) : Supertypes :=
  s.filter fun d => !visited.contains d.1

private theorem pending_cons_le (s : Supertypes) (visited : List String) (name : String) :
    (s.pending (name :: visited)).length ≤ (s.pending visited).length := by
  simp only [pending, ← List.countP_eq_length_filter]
  refine List.countP_mono_left fun d _ h => ?_
  rw [List.contains_cons, Bool.not_or, Bool.and_eq_true] at h
  exact h.2

private theorem pending_cons_lt {s : Supertypes} {visited : List String} {name : String}
    (new : ¬ visited.contains name) (declared : s.parents name ≠ []) :
    (s.pending (name :: visited)).length < (s.pending visited).length := by
  induction s with
  | nil => exact absurd rfl declared
  | cons d rest ih =>
    have le := pending_cons_le rest visited name
    simp only [pending] at ih le ⊢
    by_cases hn : d.1 = name
    · have here : (!visited.contains d.1) = true := by simpa [hn] using new
      have gone : ¬ (!(name :: visited).contains d.1) = true := by simp [hn]
      rw [List.filter_cons, if_neg gone, List.filter_cons, if_pos here]
      exact Nat.lt_succ_of_le le
    · have tail : parents rest name ≠ [] := by
        simpa [parents, List.filter_cons, hn] using declared
      have less := ih tail
      have same : (name :: visited).contains d.1 = visited.contains d.1 := by simp [hn]
      by_cases hv : (!visited.contains d.1) = true
      · rw [List.filter_cons, same, if_pos hv, List.filter_cons, if_pos hv]
        exact Nat.succ_lt_succ less
      · rw [List.filter_cons, same, if_neg hv, List.filter_cons, if_neg hv]
        exact less

/-- Follows supertypes from the types in the queue, each type once. -/
def reaches (s : Supertypes) (base : String) (visited : List String) : List String → Bool
  | [] => false
  | name :: rest =>
    if name = base then true
    else if visited.contains name then reaches s base visited rest
    else reaches s base (name :: visited) (rest ++ s.parents name)
termination_by queue => ((s.pending visited).length, queue.length)
decreasing_by
  · exact Prod.Lex.right _ (by simp)
  · rename_i new
    by_cases declared : s.parents name = []
    · rcases Nat.lt_or_eq_of_le (pending_cons_le s visited name) with less | same
      · exact Prod.Lex.left _ _ less
      · rw [same]
        exact Prod.Lex.right _ (by simp [declared])
    · exact Prod.Lex.left _ _ (pending_cons_lt new declared)

def isSubtype (s : Supertypes) (candidate base : TypePath) : Bool :=
  s.reaches base.text [] [candidate.text]

end Supertypes

end ScreenNavigation.Manifest
