import Mathlib.Data.List.Forall2
import ScreenNavigation.Proofs.Builder.OptionalFields

/-! What the methods of a builder do with its fields, read off the statements of the generated code. Encoding,
decoding and saving name the same keys in the same order, and guards, types and defaults are those of the
structure and of the factory. -/
namespace ScreenNavigation

namespace Source

/-- A value that is stored under a key; behind a guard it may be absent. -/
structure Write where
  place : Expression
  key : String
  guarded : Bool

/-- A value that is read from a key as a type; `target` is the field or the method that gets it. -/
structure Read where
  target : String
  key : String
  type : Ty
  fallback : Option Expression

namespace Expression

def word? : Expression → Option String
  | .name (.mk false [.mk w .none]) => some w
  | _ => none

/-- The name of a constant of the type itself. -/
def ownConstant? : Expression → Option String
  | .name (.mk false [.mk "Self" .none, .mk w .none]) => some w
  | _ => none

/-- The key and the value of `writer.put(Self::KEY, value)?`. -/
def put? (writer put : String) : Expression → Option (String × Expression)
  | .attempt (.method receiver called [] [key, value]) =>
    if receiver.word? = some writer ∧ called = put then key.ownConstant?.map (·, value) else none
  | _ => none

/-- The key, the type and the default of a value that is read from `state`. -/
def got? (state : String) : Expression → Option (String × Ty × Option Expression)
  | .method receiver "get_or" [t] [key, default] =>
    if receiver.word? = some state then key.ownConstant?.map (·, t, some default) else none
  | .method receiver "get" [t] [key] =>
    if receiver.word? = some state then key.ownConstant?.map (·, t, none) else none
  | .method (.method receiver "get" [t] [key]) "or_else" [] [.closure [] default] =>
    if receiver.word? = some state then key.ownConstant?.map (·, t, some default) else none
  | _ => none

end Expression

namespace Statement

/-- A write of a reference to a place, or of what a guard has found there. -/
def write? (writer put : String) : Statement → Option Write
  | .run e =>
    match e.put? writer put with
    | some (key, .reference place) => some ⟨place, key, false⟩
    | _ => none
  | .when (.present "value" (.reference place)) [.run e] =>
    match e.put? writer put with
    | some (key, value) => if value.word? = some "value" then some ⟨place, key, true⟩ else none
    | none => none
  | _ => none

/-- A read whose value goes to a field of the screen, or to a method of it. -/
def read? (state screen : String) : Statement → Option Read
  | .run (.assign (.field place target) value) =>
    if place.word? = some screen then
      (value.got? state).map fun (key, t, fallback) => ⟨target, key, t, fallback⟩
    else none
  | .run (.method place target [] [value]) =>
    if place.word? = some screen then
      (value.got? state).map fun (key, t, fallback) => ⟨target, key, t, fallback⟩
    else none
  | _ => none

/-- The statements under one condition, with a result behind them. -/
def guarded? : List Statement → Option (List Statement)
  | [.when _ body, .result _] => some body
  | _ => none

/-- The statements under two conditions. -/
def guardedTwice? : List Statement → Option (List Statement)
  | [.when _ [.when _ body]] => some body
  | _ => none

end Statement

end Source

namespace Builder

open Declaration Source

/-- What generated code holds for one field; without an initial value the field is a parameter. -/
structure Row where
  name : String
  type : Ty
  constant : String
  initial : Option Expression
  encoded : Write
  decoded : Read
  saved : Write

namespace Row

/-- The code treats the field alike everywhere. A guard stands exactly where the structure has an option, and
what is inside the option is what is read. -/
structure Agrees (r : Row) : Prop where
  keys : r.encoded.key = r.constant ∧ r.decoded.key = r.constant ∧ r.saved.key = r.constant
  encoded_guarded : r.encoded.guarded = r.type.optional?.isSome
  saved_guarded : r.saved.guarded = r.type.optional?.isSome
  decoded_type : r.decoded.type = r.type.optional?.getD r.type
  fallback : ∀ e, r.initial = some e → r.decoded.fallback = some e

/-- The row is about the field: its values come from the builder and from the screen. -/
structure IsOf (f : Field) (r : Row) : Prop where
  name : r.name = f.name
  type : r.type = f.type.storageType
  optional : r.initial.isSome = f.isOptional
  encoded : r.encoded.place = .field (.word "self") f.name
  decoded : r.decoded.target = if f.isPrivate then f.setter else f.name
  saved : r.saved.place =
    if f.isPrivate then .method (.word "typed") f.getter [] [] else .field (.word "typed") f.name

/-- The rows are those of the file: each method has one statement for each of them, in their order. -/
structure AreOf (rows : List Row) (f : File) : Prop where
  fields : f.fields = rows.map fun r => (r.name, r.type)
  constants : f.constants = rows.map (·.constant)
  initial : ∃ g, f.function? "builder" = some g ∧
    g.parameters = (rows.filter (·.initial.isNone)).map (fun r => (r.name, r.type)) ∧
    g.body = [.result (.record ((rows.filter (·.initial.isNone) ++
      rows.filter (·.initial.isSome)).map fun r => (r.name, r.initial)))]
  encoded : ∃ g, f.function? "payload" = some g ∧
    g.body.map (Statement.write? "payload" "put_extra") =
      none :: rows.map (fun r => some r.encoded) ++ [none]
  decoded : ∃ g body, f.function? "inject" = some g ∧ Statement.guardedTwice? g.body = some body ∧
    body.map (Statement.read? "state" "typed") = rows.map fun r => some r.decoded
  saved : ∃ g body, f.function? "save_state" = some g ∧ Statement.guarded? g.body = some body ∧
    body.map (Statement.write? "out_state" "put") = rows.map fun r => some r.saved

/-- What the code of a field's members is. -/
def ofField (f : Field) : Row :=
  let b := Binding.ofField f
  { name := f.name
    type := f.type.storageType
    constant := f.constant
    initial := if f.isOptional then some (f.default.expression f.type) else none
    encoded := ⟨.field (.word "self") f.name, f.constant, f.type.isNullable⟩
    decoded :=
      ⟨if f.isPrivate then f.setter else f.name, f.constant, f.type.valueType,
        if f.type.isNullable && f.default == .null then none else some (f.default.expression f.type)⟩
    saved := ⟨b.place (.word "typed"), f.constant, f.type.isNullable⟩ }

theorem isOf_ofField (f : Field) : (ofField f).IsOf f where
  name := rfl
  type := rfl
  optional := by
    rw [ofField]
    cases f.isOptional <;> rfl
  encoded := rfl
  decoded := rfl
  saved := by
    change (Binding.ofField f).place _ = _
    rw [Binding.place, Binding.ofField]
    cases f.isPrivate <;> rfl

end Row

section Statements

variable (b : Binding)

private theorem write?_write (place : Expression) (writer put : String) :
    (b.write place (.word writer) put).write? writer put = some ⟨place, b.constant, b.type.isNullable⟩ := by
  rw [Binding.write]
  cases nullable : b.type.isNullable <;>
    simp [Statement.write?, Expression.put?, Expression.word?, Expression.ownConstant?,
      Expression.word, Expression.ownConstant, Expression.path, Path.ofNames]

/-- Only an option whose default is absent is read without a default. -/
private theorem got?_read : (b.read (.word "state")).got? "state" = some (b.constant, b.type.valueType,
    if b.type.isNullable && b.default == .null then none else some (b.default.expression b.type)) := by
  rw [Binding.read]
  cases nullable : b.type.isNullable <;> by_cases null : b.default = .null <;>
    simp [null, Expression.got?, Expression.word?, Expression.ownConstant?, Expression.word,
      Expression.ownConstant, Expression.path, Path.ofNames]

private theorem read?_store {value : Expression} {key : String} {t : Ty} {fallback : Option Expression}
    (got : value.got? "state" = some (key, t, fallback)) :
    (b.store (.word "typed") value).read? "state" "typed" = some
      { target := match b.access with
          | .direct => b.name
          | .accessors setter _ => setter
        key := key
        type := t
        fallback := fallback } := by
  rw [Binding.store]
  cases b.access <;>
    simp [Statement.read?, Expression.word?, Expression.word, Expression.path, Path.ofNames, got]

theorem Row.agrees_ofField (f : Field) : (Row.ofField f).Agrees where
  keys := ⟨rfl, rfl, rfl⟩
  encoded_guarded := by
    change f.type.isNullable = f.type.storageType.optional?.isSome
    rw [FieldType.optional?_storageType]
    cases f.type.isNullable <;> rfl
  saved_guarded := by
    change f.type.isNullable = f.type.storageType.optional?.isSome
    rw [FieldType.optional?_storageType]
    cases f.type.isNullable <;> rfl
  decoded_type := by
    change f.type.valueType = f.type.storageType.optional?.getD f.type.storageType
    rw [FieldType.optional?_storageType, FieldType.storageType]
    cases f.type.isNullable <;> rfl
  fallback e initial := by
    change (if f.isOptional then some (f.default.expression f.type) else none) = some e at initial
    change (if f.type.isNullable && f.default == .null then none
      else some (f.default.expression f.type)) = some e
    cases optional : f.isOptional with
    | false => simp [optional] at initial
    | true =>
      have given : (f.default == .null) = false := beq_eq_false_iff_ne.mpr (Field.default_ne_null optional)
      simpa [optional, given] using initial

end Statements

section Screens

variable (screen : Screen) (s : Settings)

private theorem initial_required {f : Field} (hf : f ∈ screen.required) :
    (Row.ofField f).initial = none := by
  have required := (List.mem_filter.mp hf).2
  rw [Field.isRequired, Bool.not_eq_true'] at required
  rw [Row.ofField, required]
  rfl

private theorem initial_optional {f : Field} (hf : f ∈ screen.optional) :
    (Row.ofField f).initial = some (f.default.expression f.type) := by
  rw [Row.ofField, (List.mem_filter.mp hf).2]
  rfl

private theorem rows_required : (screen.fields.map Row.ofField).filter (·.initial.isNone) =
    screen.required.map Row.ofField := by
  rw [List.filter_map]
  refine congrArg _ (List.filter_congr fun f _ => ?_)
  rw [Field.isRequired, ← (Row.isOf_ofField f).optional, Option.not_isSome]
  rfl

private theorem rows_optional : (screen.fields.map Row.ofField).filter (·.initial.isSome) =
    screen.optional.map Row.ofField := by
  rw [List.filter_map]
  exact congrArg _ (List.filter_congr fun f _ => (Row.isOf_ofField f).optional)

private theorem record_rows : (screen.required.map Row.ofField ++ screen.optional.map Row.ofField).map
    (fun r => (r.name, r.initial)) =
      screen.required.map (fun f => (f.name, none)) ++
        screen.optional.map (fun f => (f.name, some (f.default.expression f.type))) := by
  rw [List.map_append, List.map_map, List.map_map]
  congr 1
  · exact List.map_congr_left fun f hf => congrArg _ (initial_required screen hf)
  · exact List.map_congr_left fun f hf => congrArg _ (initial_optional screen hf)

variable (target : Ty) (fields : List Field)

private theorem writes_encodeCode :
    (encodeCode target (fields.map .ofField)).body.map (Statement.write? "payload" "put_extra") =
      none :: (fields.map Row.ofField).map (fun r => some r.encoded) ++ [none] := by
  have first (value : Expression) :
      (Statement.bind true "payload" value).write? "payload" "put_extra" = none := rfl
  simp only [encodeCode, List.map_append, List.map_map, Function.comp_def, write?_write, List.map_cons,
    List.map_nil, first, Row.ofField, Binding.ofField, Binding.value]
  rfl

private theorem read?_decode (f : Field) :
    ((Binding.ofField f).store (.word "typed") ((Binding.ofField f).read (.word "state"))).read?
      "state" "typed" = some (Row.ofField f).decoded := by
  rw [read?_store _ (got?_read _)]
  simp only [Binding.ofField, Row.ofField]
  cases f.isPrivate <;> rfl

private theorem reads_decodeCode : ∃ body,
    Statement.guardedTwice? (decodeCode target (fields.map .ofField)).body = some body ∧
      body.map (Statement.read? "state" "typed") =
        (fields.map Row.ofField).map fun r => some r.decoded := by
  refine ⟨(fields.map Binding.ofField).map fun b => b.store (.word "typed") (b.read (.word "state")),
    rfl, ?_⟩
  simp only [List.map_map, Function.comp_def, read?_decode]

private theorem writes_saveStateCode : ∃ body,
    Statement.guarded? (saveStateCode target (fields.map .ofField)).body = some body ∧
      body.map (Statement.write? "out_state" "put") =
        (fields.map Row.ofField).map fun r => some r.saved := by
  refine ⟨(fields.map Binding.ofField).map fun b =>
    b.write (b.place (.word "typed")) (.word "out_state") "put", rfl, ?_⟩
  simp only [List.map_map, Function.comp_def, write?_write, Row.ofField, Binding.ofField]

theorem Row.areOf_fields : Row.AreOf (screen.fields.map Row.ofField) ((Plan.ofScreen screen).code s) where
  fields := by
    rw [fields_code, List.map_map]
    rfl
  constants := by
    rw [constants_code, List.map_map]
    simp only [Function.comp_def, Row.ofField]
  initial := by
    refine ⟨_, function?_builder screen s, ?_, ?_⟩
    · rw [rows_required]
      simp only [factoryCode, List.map_map]
      rfl
    · rw [rows_required, rows_optional, record_rows]
      simp only [factoryCode, List.map_map]
      rfl
  encoded := ⟨_, function?_payload screen s, writes_encodeCode _ _⟩
  decoded := by
    obtain ⟨body, guarded, reads⟩ := reads_decodeCode (.path screen.identity.path) screen.fields
    exact ⟨_, body, function?_inject screen s, guarded, reads⟩
  saved := by
    obtain ⟨body, guarded, writes⟩ := writes_saveStateCode (.path screen.identity.path) screen.fields
    exact ⟨_, body, function?_saveState screen s, guarded, writes⟩

/-- Encoding, decoding and saving have one statement for each field, in the order of the fields, and they
agree about its key, about its guard and about its default. -/
theorem methods_agree : ∃ rows, List.Forall₂ Row.IsOf screen.fields rows ∧
    Row.AreOf rows ((Plan.ofScreen screen).code s) ∧ ∀ r ∈ rows, r.Agrees := by
  refine ⟨screen.fields.map Row.ofField, ?_, Row.areOf_fields screen s, ?_⟩
  · exact List.forall₂_map_right_iff.mpr (List.forall₂_same.mpr fun f _ => Row.isOf_ofField f)
  · exact List.forall_mem_map.mpr fun f _ => Row.agrees_ofField f

end Screens

end Builder

end ScreenNavigation
