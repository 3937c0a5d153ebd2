import Mathlib.Data.List.Basic
import ScreenNavigation.Proofs.Builder.PlannedMembers

/-! The order of the members of a builder, and the bindings that they share. What storage holds is divided
between the parameters and the defaults of the factory, so a new builder has one value for each field. -/
namespace ScreenNavigation

namespace Source

/-- The fields that a statement gives values to when its result is a structure. -/
def Statement.initialized : Statement → List String
  | .result (.record fields) => fields.map (·.1)
  | _ => []

def Associated.initialized : Associated → List String
  | .key _ _ => []
  | .function f => f.body.flatMap Statement.initialized

/-- The fields that the blocks of a file give values to, each time they make a structure. -/
def File.initialized (f : File) : List String :=
  f.items.flatMap fun
    | .implementation _ members => members.flatMap Associated.initialized
    | _ => []

end Source

namespace Declaration.Screen

/-- A field is either required or optional. -/
theorem required_append_optional_perm (screen : Screen) :
    (screen.required ++ screen.optional).Perm screen.fields := by
  have others : screen.required = screen.fields.filter fun f => !f.isOptional := rfl
  rw [others, optional]
  exact List.perm_append_comm.trans (List.filter_append_perm Field.isOptional screen.fields)

end Declaration.Screen

namespace Builder

open Declaration Source

/-- The lists that the members of a builder are made from. -/
structure MemberLists where
  /-- Names of constants, with the keys that they hold. -/
  constants : List (String × String)
  storage : List Binding
  required : List Binding
  optional : List Binding

namespace MemberLists

def members (l : MemberLists) : List Member :=
  l.constants.map (fun c => .keyConstant c.1 c.2) ++ l.storage.map .storage ++
    .factory l.required l.optional :: l.optional.map .setter ++
    [.encode l.storage, .decode l.storage, .saveState l.storage, .reEntry .replace,
      .reEntry .conditional, .trigger ⟨false, false⟩, .trigger ⟨true, false⟩,
      .trigger ⟨false, true⟩, .trigger ⟨true, true⟩]

/-- The lists belong to the fields of a screen, each in the order of the fields. -/
structure AreOf (l : MemberLists) (screen : Screen) : Prop where
  storage : l.storage = screen.fields.map Binding.ofField
  /-- Storage knows the constants by their names, and these hold the keys of the fields. -/
  constants : l.constants.map Prod.fst = l.storage.map (·.constant)
  keys : l.constants.map Prod.snd = screen.fields.map (·.key)
  setters : l.optional.map (·.name) = screen.optional.map (·.name)
  required_sublist : l.required.Sublist l.storage
  optional_sublist : l.optional.Sublist l.storage
  divided : (l.required ++ l.optional).Perm l.storage

def ofScreen (screen : Screen) : MemberLists where
  constants := screen.fields.map fun f => (f.constant, f.key)
  storage := screen.fields.map Binding.ofField
  required := screen.required.map Binding.ofField
  optional := screen.optional.map Binding.ofField

theorem areOf_ofScreen (screen : Screen) : (ofScreen screen).AreOf screen where
  storage := rfl
  constants := by simp [ofScreen, Function.comp_def, Binding.ofField]
  keys := by simp [ofScreen, Function.comp_def]
  setters := by simp [ofScreen, Function.comp_def, Binding.ofField]
  required_sublist := List.filter_sublist.map Binding.ofField
  optional_sublist := List.filter_sublist.map Binding.ofField
  divided := by
    have bound := screen.required_append_optional_perm.map Binding.ofField
    rwa [List.map_append] at bound

end MemberLists

section Code

variable (screen : Screen) (s : Settings)

theorem Plan.members_ofScreen :
    (Plan.ofScreen screen).members = (MemberLists.ofScreen screen).members := by
  simp [Plan.ofScreen, Plan.membersOf, MemberLists.members, MemberLists.ofScreen, Trigger.all,
    Function.comp_def]

theorem Plan.length_members_ofScreen : (Plan.ofScreen screen).members.length =
    2 * screen.fields.length + screen.optional.length + 10 := by
  simp only [Plan.members_ofScreen, MemberLists.members, MemberLists.ofScreen, List.length_append,
    List.length_map, List.length_cons, List.length_nil]
  omega

private theorem initialized_write (b : Binding) (place writer : Expression) (method : String) :
    (b.write place writer method).initialized = [] := by
  rw [Binding.write]
  split <;> rfl

private theorem initialized_encodeCode (target : Ty) (bindings : List Binding) :
    (Associated.function (encodeCode target bindings)).initialized = [] := by
  refine List.flatMap_eq_nil_iff.mpr fun statement hs => ?_
  rcases List.mem_append.mp hs with front | last
  · rcases List.mem_append.mp front with first | written
    · rw [List.mem_singleton.mp first]
      rfl
    · obtain ⟨b, _, rfl⟩ := List.mem_map.mp written
      exact initialized_write b _ _ _
  · rw [List.mem_singleton.mp last]
    rfl

/-- Only the factory makes a structure. -/
private theorem initialized_code? (target : Ty) (m : Member) :
    (m.code? target).toList.flatMap Associated.initialized =
      match m with
      | .factory required optional => (required ++ optional).map (·.name)
      | _ => [] := by
  cases m with
  | factory required optional =>
    simp [Member.code?, Associated.initialized, Statement.initialized, factoryCode,
      Function.comp_def]
  | encode bindings => simp [Member.code?, initialized_encodeCode]
  | reEntry mode => cases mode <;> rfl
  | trigger t => obtain ⟨_ | _, _ | _⟩ := t <;> rfl
  | _ => rfl

private theorem initialized_code :
    ((Plan.ofScreen screen).code s).initialized =
      (screen.required ++ screen.optional).map (·.name) := by
  have made (p : Plan) : (p.code s).initialized =
      p.members.flatMap fun m => ((m.code? (.path p.target.path)).toList).flatMap Associated.initialized := by
    simp [Plan.code, File.initialized, List.filterMap_eq_flatMap_toList, List.flatMap_assoc]
  have silent {α : Type} (l : List α) : l.flatMap (fun _ => ([] : List String)) = [] :=
    List.flatMap_eq_nil_iff.mpr fun _ _ => rfl
  simp [made, initialized_code?, Plan.members_ofScreen, MemberLists.members, MemberLists.ofScreen,
    List.flatMap_map, silent, Function.comp_def, Binding.ofField]

end Code

/-- A concrete screen has a plan, made from lists that belong to its fields. The factory gives one value to
each field of the structure. -/
theorem plan_shares_bindings (screen : Screen) (s : Settings) :
    ∃ (plan : Plan) (lists : MemberLists),
      Plan.ofScreen? screen = (if screen.isAbstract then none else some plan) ∧
      plan.members = lists.members ∧ lists.AreOf screen ∧
      (plan.code s).fieldNames = screen.fields.map (·.name) ∧
      (plan.code s).initialized.Perm (plan.code s).fieldNames := by
  have fields : ((Plan.ofScreen screen).code s).fieldNames = screen.fields.map (·.name) := by
    rw [Plan.fieldNames_code, Plan.storage_ofScreen, List.map_map]
    rfl
  refine ⟨Plan.ofScreen screen, .ofScreen screen, rfl, Plan.members_ofScreen screen,
    MemberLists.areOf_ofScreen screen, fields, ?_⟩
  rw [fields, initialized_code]
  exact screen.required_append_optional_perm.map _

end Builder

end ScreenNavigation
