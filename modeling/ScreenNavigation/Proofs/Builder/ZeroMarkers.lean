import Mathlib.Data.List.Nodup
import ScreenNavigation.Proofs.Builder.PlannedMembers
import ScreenNavigation.Proofs.Declaration.ZeroLiterals

/-! Fields that are required although they have a marker. Without the marker such a field keeps its place
in every member, and only the value behind its key changes, from the marker to the zero of the type. -/
namespace ScreenNavigation.Declaration

/-- The field as it is without a marker. -/
def Field.unmarked (f : Field) : Field := { f with marker := none }

/-- Takes the marker from the field of the name. -/
def Field.unmark (name : String) (f : Field) : Field := if f.name = name then f.unmarked else f

namespace Field

variable {f : Field} {marker : Json.Value}

theorem isZero_of_isRequired (marked : f.marker = some marker) (required : f.isRequired = true) :
    (Default.ofMarker marker f.type).isZero f.type = true := by
  rwa [isRequired, isOptional_eq marked, Bool.not_not] at required

theorem constant_unmarked (f : Field) : f.unmarked.constant = f.constant :=
  congrArg Naming.constantName (rfl : f.unmarked.key = f.key)

theorem setter_unmarked (f : Field) : f.unmarked.setter = f.setter :=
  congrArg Naming.setterName (rfl : f.unmarked.name = f.name)

theorem isOptional_unmarked (f : Field) : f.unmarked.isOptional = false := rfl

theorem key_unmark (name : String) (f : Field) : (f.unmark name).key = f.key := by
  rw [unmark]
  split <;> rfl

end Field

/-- The screen with its fields changed, each under the key that it had. -/
def Screen.mapFields (screen : Screen) (u : Field → Field) (key : ∀ f, (u f).key = f.key) : Screen :=
  { screen with
    fields := screen.fields.map u
    distinct := by
      have keys : (screen.fields.map u).map (·.key) = screen.fields.map (·.key) := by
        rw [List.map_map]
        exact List.map_congr_left fun f _ => key f
      rw [keys]
      exact screen.distinct }

section MappedFields

variable (screen : Screen) (u : Field → Field) (key : ∀ f, (u f).key = f.key)

theorem Screen.identity_mapFields : (screen.mapFields u key).identity = screen.identity := rfl

theorem Screen.package_mapFields : (screen.mapFields u key).package = screen.package := rfl

theorem Screen.fields_mapFields : (screen.mapFields u key).fields = screen.fields.map u := rfl

end MappedFields

/-- The screen in which the field of the name has no marker. -/
def Screen.unmark (screen : Screen) (name : String) : Screen :=
  screen.mapFields (Field.unmark name) (Field.key_unmark name)

end ScreenNavigation.Declaration

namespace ScreenNavigation.Builder

open Declaration Source

/-- Changes the bindings of a member, and nothing else. -/
def Member.mapBindings (g : Binding → Binding) : Member → Member
  | .keyConstant name key => .keyConstant name key
  | .storage b => .storage (g b)
  | .factory required optional => .factory (required.map g) (optional.map g)
  | .setter b => .setter (g b)
  | .encode bindings => .encode (bindings.map g)
  | .decode bindings => .decode (bindings.map g)
  | .saveState bindings => .saveState (bindings.map g)
  | .reEntry mode => .reEntry mode
  | .trigger t => .trigger t

def Plan.mapBindings (g : Binding → Binding) (p : Plan) : Plan :=
  { p with members := p.members.map (Member.mapBindings g) }

/-- The binding of the field of the name falls back to the zero of its type. -/
def Binding.zeroed (name : String) (b : Binding) : Binding :=
  if b.name = name then { b with default := .zero b.type } else b

theorem Binding.zeroed_access (name : String) (b : Binding) : (b.zeroed name).access = b.access := by
  rw [zeroed]
  split <;> rfl

theorem Binding.zeroed_type (name : String) (b : Binding) : (b.zeroed name).type = b.type := by
  rw [zeroed]
  split <;> rfl

private theorem Binding.ofField_unmarked (f : Field) :
    ofField f.unmarked = { ofField f with default := .zero f.type } := by
  simp only [ofField, Field.constant_unmarked, Field.setter_unmarked]
  rfl

/-- Without its marker a field keeps all that is known about it but its default. -/
theorem Binding.ofField_unmark (name : String) (f : Field) :
    ofField (f.unmark name) = (ofField f).zeroed name := by
  rw [Field.unmark, zeroed]
  by_cases same : f.name = name
  · rw [if_pos same, if_pos (show (ofField f).name = name from same), ofField_unmarked]
    rfl
  · rw [if_neg same, if_neg (show ¬ (ofField f).name = name from same)]

section Members

variable {screen : Screen} {u : Field → Field} {g : Binding → Binding}

private theorem filter_map_bindings {p : Field → Bool} {fields : List Field}
    (same : ∀ f ∈ fields, p (u f) = p f)
    (binding : ∀ f ∈ fields, Binding.ofField (u f) = g (Binding.ofField f)) :
    ((fields.map u).filter p).map Binding.ofField =
      ((fields.filter p).map Binding.ofField).map g := by
  have kept : fields.filter (p ∘ u) = fields.filter p := List.filter_congr same
  rw [List.filter_map, kept, List.map_map, List.map_map]
  exact List.map_congr_left fun f hf => binding f (List.mem_filter.mp hf).1

theorem Plan.ofScreen_mapFields (screen : Screen) (key : ∀ f, (u f).key = f.key)
    (optional : ∀ f ∈ screen.fields, (u f).isOptional = f.isOptional)
    (binding : ∀ f ∈ screen.fields, Binding.ofField (u f) = g (Binding.ofField f)) :
    ofScreen (screen.mapFields u key) = (ofScreen screen).mapBindings g := by
  have required : ∀ f ∈ screen.fields, (u f).isRequired = f.isRequired := fun f hf => by
    rw [Field.isRequired, Field.isRequired, optional f hf]
  have constants : (screen.fields.map u).map (fun f => Member.keyConstant f.constant f.key) =
      screen.fields.map fun f => Member.keyConstant f.constant f.key := by
    rw [List.map_map]
    refine List.map_congr_left fun f _ => ?_
    rw [Function.comp_apply, Field.constant, Field.constant, key f]
  have bindings : (screen.fields.map u).map Binding.ofField =
      (screen.fields.map Binding.ofField).map g := by
    rw [List.map_map, List.map_map]
    exact List.map_congr_left binding
  have members : membersOf (screen.mapFields u key) =
      (membersOf screen).map (Member.mapBindings g) := by
    simp only [membersOf, Screen.required, Screen.optional, Screen.fields_mapFields, constants, bindings,
      filter_map_bindings optional binding, filter_map_bindings required binding]
    simp only [List.map_append, List.map_map, List.map_cons, List.map_nil, Function.comp_def,
      Member.mapBindings]
  have builder : (screen.mapFields u key).builderName = screen.builderName :=
    Screen.builderName_congr rfl
  have module : (screen.mapFields u key).moduleName = screen.moduleName :=
    Screen.moduleName_congr rfl
  rw [ofScreen, ofScreen, builder, module, members, mapBindings, Screen.package_mapFields,
    Screen.identity_mapFields]

private theorem Member.mapBindings_id (m : Member) : m.mapBindings id = m := by
  cases m <;> simp [mapBindings]

theorem Plan.mapBindings_id (p : Plan) : p.mapBindings id = p := by
  have members : p.members.map (Member.mapBindings id) = p.members := by
    rw [List.map_congr_left fun m _ => m.mapBindings_id, List.map_id']
  rw [mapBindings, members]

end Members

section Code

variable {g : Binding → Binding}

private theorem eq_of_filterMap_eq {α β : Type} {f g : α → Option β}
    (shape : ∀ a, (f a).isSome = (g a).isSome) {l : List α} (same : l.filterMap f = l.filterMap g) :
    ∀ a ∈ l, f a = g a := by
  induction l with
  | nil => exact fun _ none => absurd none List.not_mem_nil
  | cons a rest ih =>
    rw [List.filterMap_cons, List.filterMap_cons] at same
    have here := shape a
    cases hf : f a with
    | none =>
      rw [hf, Option.isSome_none, eq_comm, Option.isSome_eq_false_iff,
        Option.isNone_iff_eq_none] at here
      rw [hf, here] at same
      exact List.forall_mem_cons.mpr ⟨hf.trans here.symm, ih same⟩
    | some b =>
      rw [hf, Option.isSome_some, eq_comm, Option.isSome_iff_exists] at here
      obtain ⟨c, hg⟩ := here
      rw [hf, hg] at same
      obtain ⟨rfl, behind⟩ := List.cons.inj same
      exact List.forall_mem_cons.mpr ⟨hf.trans hg.symm, ih behind⟩

private theorem isSome_code?_mapBindings (target : Ty) (m : Member) :
    ((m.mapBindings g).code? target).isSome = (m.code? target).isSome := by
  cases m <;> rfl

/-- Plans of one code have one code for each member. -/
theorem Plan.code?_eq_of_code_eq {p : Plan} {s : Settings} (same : (p.mapBindings g).code s = p.code s) :
    ∀ m ∈ p.members,
      (m.mapBindings g).code? (.path p.target.path) = m.code? (.path p.target.path) := by
  have items := congrArg File.items same
  simp only [code, mapBindings, List.filterMap_map, List.cons.injEq, Item.implementation.injEq] at items
  exact eq_of_filterMap_eq (isSome_code?_mapBindings _) items.2.2.1.2

private theorem Binding.eq_of_store_eq {b c : Binding} {screen value other : Expression}
    (access : b.access = c.access) (same : b.store screen value = c.store screen other) :
    value = other := by
  rw [store.eq_def, store.eq_def, access] at same
  cases h : c.access with
  | direct =>
    simp only [h, Statement.run.injEq, Expression.assign.injEq] at same
    exact same.2
  | accessors setter getter =>
    simp only [h, Statement.run.injEq, Expression.method.injEq, List.cons.injEq, and_true,
      true_and] at same
    exact same

private theorem Binding.expression_eq_of_read_eq {b c : Binding} {state : Expression}
    (type : b.type = c.type) (present : c.type.isNullable = false)
    (same : b.read state = c.read state) :
    b.default.expression c.type = c.default.expression c.type := by
  simp only [read, type, present, Bool.false_eq_true, if_false, Expression.method.injEq,
    List.cons.injEq, and_true, true_and] at same
  exact same.2

/-- Decoding shows the default of a binding, unless a value of its type may be absent. -/
theorem expression_eq_of_decodeCode_eq {target : Ty} {bindings : List Binding}
    (access : ∀ b, (g b).access = b.access) (type : ∀ b, (g b).type = b.type)
    (same : decodeCode target (bindings.map g) = decodeCode target bindings) :
    ∀ b ∈ bindings, b.type.isNullable = false →
      (g b).default.expression b.type = b.default.expression b.type := by
  have body := congrArg Function.body same
  simp only [decodeCode, List.map_map, List.cons.injEq, Statement.when.injEq, true_and, and_true,
    List.map_inj_left] at body
  exact fun b hb present => Binding.expression_eq_of_read_eq (type b) present
    (Binding.eq_of_store_eq (access b) (body b hb))

end Code

section Unmarking

variable {screen : Screen} {f : Field} {marker : Json.Value}

private theorem eq_of_name_eq (hf : f ∈ screen.fields) {h : Field} (hh : h ∈ screen.fields)
    (same : h.name = f.name) : h = f :=
  List.inj_on_of_nodup_map screen.distinct hh hf (by rw [Field.key, Field.key, same])

private theorem isOptional_unmark (hf : f ∈ screen.fields) (required : f.isRequired = true) :
    ∀ h ∈ screen.fields, (h.unmark f.name).isOptional = h.isOptional := by
  intro h hh
  rw [Field.unmark]
  split
  · rename_i same
    rw [eq_of_name_eq hf hh same, Field.isOptional_unmarked]
    rw [Field.isRequired] at required
    simpa using required.symm
  · rfl

/-- Without its marker a required field has the zero of its type as its default, and nothing else changes. -/
theorem ofScreen_unmark (hf : f ∈ screen.fields) (required : f.isRequired = true) :
    Plan.ofScreen (screen.unmark f.name) =
      (Plan.ofScreen screen).mapBindings (Binding.zeroed f.name) :=
  Plan.ofScreen_mapFields screen (Field.key_unmark f.name) (isOptional_unmark hf required)
    fun h _ => Binding.ofField_unmark f.name h

private theorem ofScreen_unmark_of_zero (hf : f ∈ screen.fields) (required : f.isRequired = true)
    (zero : f.default = .zero f.type) :
    Plan.ofScreen (screen.unmark f.name) = Plan.ofScreen screen := by
  refine (Plan.ofScreen_mapFields (g := id) screen (Field.key_unmark f.name)
    (isOptional_unmark hf required) fun h hh => ?_).trans (Plan.mapBindings_id _)
  rw [Field.unmark]
  split
  · rename_i same
    rw [eq_of_name_eq hf hh same, id_eq, Binding.ofField_unmarked, ← zero, Binding.ofField]
  · rfl

private theorem isOwnZero_of_code_eq (hf : f ∈ screen.fields) (marked : f.marker = some marker)
    (required : f.isRequired = true) {s : Settings}
    (same : (Plan.ofScreen (screen.unmark f.name)).code s = (Plan.ofScreen screen).code s) :
    IsOwnZero f.type marker := by
  have silent := Field.isZero_of_isRequired marked required
  cases nullable : f.type.isNullable with
  | true => exact Default.isOwnZero_of_nullable nullable silent
  | false =>
    rw [ofScreen_unmark hf required] at same
    -- Of all members only decoding shows the default of a required field.
    have decode : Member.decode (screen.fields.map Binding.ofField) ∈
        (Plan.ofScreen screen).members := by
      simp [Plan.ofScreen, Plan.membersOf]
    have decoded := Associated.function.inj
      (Option.some.inj (Plan.code?_eq_of_code_eq same _ decode))
    have shown := expression_eq_of_decodeCode_eq (Binding.zeroed_access f.name)
      (Binding.zeroed_type f.name) decoded (Binding.ofField f) (List.mem_map_of_mem hf) nullable
    rw [Binding.zeroed, if_pos (show (Binding.ofField f).name = f.name from rfl)] at shown
    refine Default.isOwnZero_of_expression_eq silent ?_
    rw [← Field.default_eq_ofMarker marked]
    exact shown.symm

/-- A marker that leaves its field required changes the default behind the key of the field and nothing
else. It changes nothing, in the plan or in the code, exactly when it is the zero of the type itself. -/
theorem unmark_changes_default (hf : f ∈ screen.fields) (marked : f.marker = some marker)
    (required : f.isRequired = true) (s : Settings) :
    Plan.ofScreen (screen.unmark f.name) =
        (Plan.ofScreen screen).mapBindings (Binding.zeroed f.name) ∧
      (Plan.ofScreen (screen.unmark f.name) = Plan.ofScreen screen ↔ IsOwnZero f.type marker) ∧
      ((Plan.ofScreen (screen.unmark f.name)).code s = (Plan.ofScreen screen).code s ↔
        IsOwnZero f.type marker) := by
  have shown := isOwnZero_of_code_eq hf marked required (s := s)
  have hidden (zero : IsOwnZero f.type marker) :
      Plan.ofScreen (screen.unmark f.name) = Plan.ofScreen screen := by
    refine ofScreen_unmark_of_zero hf required ?_
    rw [Field.default_eq_ofMarker marked]
    exact (Default.ofMarker_eq_zero_iff marker f.type).mpr zero
  exact ⟨ofScreen_unmark hf required,
    ⟨fun same => shown (congrArg (·.code s) same), hidden⟩,
    ⟨shown, fun zero => congrArg (·.code s) (hidden zero)⟩⟩

end Unmarking

/-- Both fields are required, although their markers are not the zeros of their types. -/
def gauge : Screen where
  identity := .of "crate::Gauge" (.ofNames ["crate", "Gauge"])
  package := "crate"
  isAbstract := false
  fields := [
    ⟨"count", .primitive .i32, false, some (.bool false)⟩,
    ⟨"ratio", .primitive .f64, false, some (.number (.real Decimal.Double.zero.neg))⟩]
  distinct := by decide

theorem unmark_changes_default_ratio :
    ∃ f ∈ gauge.fields, f.marker = some (.number (.real Decimal.Double.zero.neg)) ∧
      f.isRequired = true ∧
      Plan.ofScreen (gauge.unmark f.name) =
        (Plan.ofScreen gauge).mapBindings (Binding.zeroed f.name) ∧
      (Plan.ofScreen (gauge.unmark f.name) = Plan.ofScreen gauge ↔
        IsOwnZero f.type (.number (.real Decimal.Double.zero.neg))) ∧
      ((Plan.ofScreen (gauge.unmark f.name)).code (.standard "") =
          (Plan.ofScreen gauge).code (.standard "") ↔
        IsOwnZero f.type (.number (.real Decimal.Double.zero.neg))) :=
  ⟨_, .tail _ (.head _), rfl, by decide,
    unmark_changes_default (.tail _ (.head _)) rfl (by decide) (.standard "")⟩

/-- A whole number that is marked as false is required, but its code keeps the marker. -/
theorem unmark_changes_code : gauge.isAbstract = false ∧
    ∃ f ∈ gauge.fields, f.marker = some (.bool false) ∧ f.isRequired = true ∧
      Plan.ofScreen (gauge.unmark f.name) ≠ Plan.ofScreen gauge ∧
      (Plan.ofScreen (gauge.unmark f.name)).code (.standard "") ≠
        (Plan.ofScreen gauge).code (.standard "") := by
  have required : Field.isRequired ⟨"count", .primitive .i32, false, some (.bool false)⟩ = true := by
    decide
  have foreign : ¬ IsOwnZero (.primitive .i32) (.bool false) := nofun
  have listed : ⟨"count", .primitive .i32, false, some (.bool false)⟩ ∈ gauge.fields := .head _
  have differ := fun same => foreign
    (isOwnZero_of_code_eq listed rfl required (s := .standard "") same)
  exact ⟨rfl, _, .head _, rfl, required,
    fun same => differ (congrArg (·.code (.standard "")) same), differ⟩

end ScreenNavigation.Builder
