import ScreenNavigation.Builder.Member

/-!
Plans of builders. A concrete screen has one plan: its key constants, storage, factory and setters,
the encoding, decoding and saving methods, re-entry, and the triggers, in this order.
-/
namespace ScreenNavigation.Builder

open Declaration

structure Plan where
  package : String
  name : String
  module : String
  target : TypePath
  members : List Member

namespace Plan

def membersOf (s : Screen) : List Member :=
  let bindings := s.fields.map Binding.ofField
  let optional := s.optional.map Binding.ofField
  s.fields.map (fun f => .keyConstant f.constant f.key) ++
    bindings.map .storage ++
    [.factory (s.required.map Binding.ofField) optional] ++
    optional.map .setter ++
    [.encode bindings, .decode bindings, .saveState bindings] ++
    [.reEntry .replace, .reEntry .conditional] ++
    Trigger.all.map .trigger

/-- The plan of a screen on its own, under the name it gives itself. -/
def ofScreen (s : Screen) : Plan :=
  ⟨s.package, s.builderName, s.moduleName, s.identity, membersOf s⟩

section OfScreen

variable (s : Screen)

theorem package_ofScreen : (ofScreen s).package = s.package := by rw [ofScreen]

theorem name_ofScreen : (ofScreen s).name = s.builderName := by rw [ofScreen]

theorem module_ofScreen : (ofScreen s).module = s.moduleName := by rw [ofScreen]

theorem target_ofScreen : (ofScreen s).target = s.identity := by rw [ofScreen]

end OfScreen

/-- An abstract screen has no plan. -/
def ofScreen? (s : Screen) : Option Plan := if s.isAbstract then none else some (ofScreen s)

/-- The bindings of the storage, in order. -/
def storage (u : Plan) : List Binding := u.members.filterMap Member.binding?

/-- Names that occur a second time, each once, in the order of their second occurrences. -/
private def repeatedFrom (seen reported : List String) : List String → List String
  | [] => []
  | name :: rest =>
    if seen.contains name then
      if reported.contains name then repeatedFrom seen reported rest
      else name :: repeatedFrom seen (name :: reported) rest
    else repeatedFrom (name :: seen) reported rest

private theorem repeatedFrom_eq_nil_iff (seen names : List String) :
    repeatedFrom seen [] names = [] ↔ names.Nodup ∧ ∀ name ∈ names, name ∉ seen := by
  induction names generalizing seen with
  | nil => simp [repeatedFrom]
  | cons name rest ih =>
    by_cases known : name ∈ seen
    · simp [repeatedFrom, known]
    · have later : (∀ other ∈ rest, other ∉ name :: seen) ↔
          name ∉ rest ∧ ∀ other ∈ rest, other ∉ seen := by
        simp only [List.mem_cons, not_or, forall_and]
        exact and_congr_left fun _ =>
          ⟨fun apart again => apart name again rfl, fun new other ho same => new (same ▸ ho)⟩
      simp only [repeatedFrom, List.contains_iff_mem, known, if_false, ih, later, List.nodup_cons,
        List.forall_mem_cons, not_false_eq_true, true_and]
      exact ⟨fun ⟨distinct, new, apart⟩ => ⟨⟨new, distinct⟩, apart⟩,
        fun ⟨⟨new, distinct⟩, apart⟩ => ⟨distinct, new, apart⟩⟩

/-- The names of the constants and methods, in order. -/
def itemNames (u : Plan) : List String := (u.members.filter (!·.isStorage)).map Member.itemName

/-- Constants and methods that more than one member would define. -/
def clashes (u : Plan) : List String := repeatedFrom [] [] u.itemNames

theorem clashes_eq_nil_iff (u : Plan) : u.clashes = [] ↔ u.itemNames.Nodup := by
  simp [clashes, repeatedFrom_eq_nil_iff]

end Plan

end ScreenNavigation.Builder
