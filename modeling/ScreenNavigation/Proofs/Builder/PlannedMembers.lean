import Mathlib.Data.List.Basic
import ScreenNavigation.Builder.Code

/-! The items that a plan becomes. The storage of a screen's plan has one binding for each field, and the
block behind it defines the names that the other members stand for, in their order. -/
namespace ScreenNavigation

namespace Source

def Associated.name : Associated → String
  | .key name _ => name
  | .function f => f.name

/-- The constants and functions that blocks of a file define. -/
def File.blockNames (f : File) : List String :=
  f.items.flatMap fun
    | .implementation _ members => members.map Associated.name
    | _ => []

/-- The fields that structures of a file define. -/
def File.fieldNames (f : File) : List String :=
  f.items.flatMap fun
    | .structure _ _ fields => fields.map (·.1)
    | _ => []

end Source

namespace Declaration.Screen

variable {screen other : Screen}

theorem builderName_congr (same : screen.identity = other.identity) :
    screen.builderName = other.builderName := by
  rw [builderName, builderName, simpleName, simpleName, same]

theorem moduleName_congr (same : screen.identity = other.identity) :
    screen.moduleName = other.moduleName := by
  rw [moduleName, moduleName, builderName_congr same]

end Declaration.Screen

namespace Builder

open Declaration Source

namespace Plan

variable (screen : Screen) (p : Plan) (s : Settings)

theorem storage_ofScreen : (ofScreen screen).storage = screen.fields.map Binding.ofField := by
  have other {α : Type} (l : List α) : l.filterMap (fun _ => (none : Option Binding)) = [] :=
    List.filterMap_eq_nil_iff.mpr fun _ _ => rfl
  have kept (l : List Field) : l.filterMap (fun f => some (Binding.ofField f)) =
      l.map Binding.ofField := congrFun (List.filterMap_eq_map (f := Binding.ofField)) l
  simp only [storage, ofScreen, membersOf, List.filterMap_append, List.filterMap_map,
    Function.comp_def, Member.binding?, List.filterMap_cons, List.filterMap_nil, other, kept,
    List.nil_append, List.append_nil]

private theorem code?_name (target : Ty) (m : Member) :
    (m.code? target).map Associated.name = if m.isStorage then none else some m.itemName := by
  cases m with
  | reEntry mode => cases mode <;> rfl
  | _ => rfl

/-- The block defines the items that are checked for clashes, and no others. -/
theorem blockNames_code : (p.code s).blockNames = p.itemNames := by
  have named : (p.members.filterMap (Member.code? (.path p.target.path))).map Associated.name =
      p.itemNames := by
    rw [itemNames, List.map_filterMap]
    induction p.members with
    | nil => rfl
    | cons m rest ih =>
      rw [List.filterMap_cons, code?_name, List.filter_cons, ih]
      cases m.isStorage <;> rfl
  simpa [code, File.blockNames] using named

theorem fieldNames_code : (p.code s).fieldNames = p.storage.map (·.name) := by
  simp [code, File.fieldNames, Function.comp_def]

/-- The methods that every builder has, whatever its fields. -/
def methodNames : List String :=
  ["builder", "payload", "inject", "save_state", "process_new_payload",
    "process_new_payload_with_update", "start", "start_with_options", "start_for_result",
    "start_for_result_with_options"]

/-- Besides its own methods a builder has one constant for each field, and one setter for each field
that is optional. -/
theorem itemNames_perm : (ofScreen screen).itemNames.Perm
    (screen.fields.map (·.constant) ++ (screen.optional.map (·.name) ++ methodNames)) := by
  have none {α : Type} (l : List α) : l.filter (fun _ => false) = [] :=
    List.filter_eq_nil_iff.mpr fun _ _ => Bool.false_ne_true
  have all {α : Type} (l : List α) : l.filter (fun _ => true) = l :=
    List.filter_eq_self.mpr fun _ _ => rfl
  have names : (ofScreen screen).itemNames = screen.fields.map (·.constant) ++
      "builder" :: (screen.optional.map (·.name) ++ methodNames.tail) := by
    simp [itemNames, ofScreen, membersOf, List.filter_map, Function.comp_def, Member.isStorage,
      Member.itemName, Binding.ofField, none, all, methodNames, Trigger.all, Trigger.name]
  rw [names]
  exact List.perm_middle.symm.append_left _

end Plan

end Builder

end ScreenNavigation
