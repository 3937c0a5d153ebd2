import Mathlib.Data.List.Basic
import ScreenNavigation.Proofs.Builder.MemberLists

/-! The constants, functions and fields of generated code, in their order. A builder's own functions are found
by their names even where a setter has one of these names too. -/
namespace ScreenNavigation

namespace Source.File

variable (f : File)

def associated : List Associated :=
  f.items.flatMap fun
    | .implementation _ members => members
    | _ => []

/-- The constants that hold texts. -/
def constants : List String :=
  f.associated.filterMap fun
    | .key name _ => some name
    | .function _ => none

def functions : List Function :=
  f.associated.filterMap fun
    | .key _ _ => none
    | .function g => some g

/-- Setters take the value that they are called on. -/
def setters : List Function := f.functions.filter (·.receiver == some .owned)

/-- Setters are not looked up. -/
def function? (name : String) : Option Function :=
  f.functions.find? fun g => g.name == name && !(g.receiver == some .owned)

def fields : List (String × Ty) :=
  f.items.flatMap fun
    | .structure _ _ fields => fields
    | _ => []

end Source.File

namespace Builder

open Declaration Source

section Code

variable (screen : Screen) (s : Settings)

private theorem associated_code : ((Plan.ofScreen screen).code s).associated =
    (Plan.ofScreen screen).members.filterMap (Member.code? (.path screen.identity.path)) := by
  simp [Plan.code, File.associated, Plan.target_ofScreen]

theorem fields_code : ((Plan.ofScreen screen).code s).fields =
    screen.fields.map fun f => (f.name, f.type.storageType) := by
  simp [Plan.code, File.fields, Plan.storage_ofScreen, Function.comp_def, Binding.ofField]

theorem constants_code :
    ((Plan.ofScreen screen).code s).constants = screen.fields.map (·.constant) := by
  simp [File.constants, associated_code, Plan.members_ofScreen, MemberLists.members,
    MemberLists.ofScreen, List.filterMap_append, List.filterMap_map, Function.comp_def, Member.code?]

/-- The functions behind the setters. -/
private def methods : List Function :=
  let target := Ty.path screen.identity.path
  let bindings := screen.fields.map Binding.ofField
  [encodeCode target bindings, decodeCode target bindings, saveStateCode target bindings,
    reEntryCode target .replace, reEntryCode target .conditional] ++ Trigger.all.map triggerCode

private theorem functions_code : ((Plan.ofScreen screen).code s).functions =
    [factoryCode (screen.required.map .ofField) (screen.optional.map .ofField)] ++
      screen.optional.map (fun f => setterCode (.ofField f)) ++ methods screen := by
  simp [File.functions, associated_code, Plan.members_ofScreen, MemberLists.members,
    MemberLists.ofScreen, List.filterMap_append, List.filterMap_map, Function.comp_def, Member.code?,
    methods, Trigger.all]

theorem setters_code : ((Plan.ofScreen screen).code s).setters =
    screen.optional.map fun f => setterCode (.ofField f) := by
  have kept : (screen.optional.map fun f => setterCode (.ofField f)).filter
      (·.receiver == some .owned) = screen.optional.map fun f => setterCode (.ofField f) :=
    List.filter_eq_self.mpr fun g hg => by
      obtain ⟨f, _, rfl⟩ := List.mem_map.mp hg
      rfl
  have others : (methods screen).filter (·.receiver == some .owned) = [] := rfl
  rw [File.setters, functions_code, List.filter_append, List.filter_append, kept, others,
    List.append_nil]
  rfl

/-- No setter is found, whatever the names of the fields. -/
private theorem function?_code (name : String) : ((Plan.ofScreen screen).code s).function? name =
    (factoryCode (screen.required.map .ofField) (screen.optional.map .ofField) ::
      methods screen).find? fun g => g.name == name && !(g.receiver == some .owned) := by
  have none : (screen.optional.map fun f => setterCode (.ofField f)).find?
      (fun g => g.name == name && !(g.receiver == some .owned)) = none := by
    refine List.find?_eq_none.mpr fun g hg => ?_
    obtain ⟨f, _, rfl⟩ := List.mem_map.mp hg
    simp [setterCode]
  rw [File.function?, functions_code, List.find?_append, List.find?_append, none, Option.or_none,
    ← List.find?_append, List.singleton_append]

theorem function?_builder : ((Plan.ofScreen screen).code s).function? "builder" =
    some (factoryCode (screen.required.map .ofField) (screen.optional.map .ofField)) := by
  rw [function?_code]
  rfl

theorem function?_payload : ((Plan.ofScreen screen).code s).function? "payload" =
    some (encodeCode (.path screen.identity.path) (screen.fields.map .ofField)) := by
  rw [function?_code]
  rfl

theorem function?_inject : ((Plan.ofScreen screen).code s).function? "inject" =
    some (decodeCode (.path screen.identity.path) (screen.fields.map .ofField)) := by
  rw [function?_code]
  rfl

theorem function?_saveState : ((Plan.ofScreen screen).code s).function? "save_state" =
    some (saveStateCode (.path screen.identity.path) (screen.fields.map .ofField)) := by
  rw [function?_code]
  rfl

end Code

end Builder

end ScreenNavigation
