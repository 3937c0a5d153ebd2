import Mathlib.Data.List.Basic
import ScreenNavigation.Proofs.Builder.FunctionLists
import ScreenNavigation.Proofs.Decimal.Widening
import ScreenNavigation.Proofs.Declaration.StorageTypes
import ScreenNavigation.Proofs.Declaration.ZeroLiterals

/-! Which fields are optional. A marker makes its field optional unless it is null, or the field's type is
primitive and the marker some kind of zero. -/
namespace ScreenNavigation

namespace Json

/-- The number is zero, with either sign. -/
def Number.IsZero : Number → Prop
  | .whole n => n.value = 0
  | .real x => x.exact.num = 0

end Json

namespace Declaration

/-- The marker gives a field of the type no value that it would not have without one. -/
def IsSilent (t : FieldType) : Json.Value → Prop
  | .null => True
  | .bool b => (∃ p, t = .primitive p) ∧ b = false
  | .number n => (∃ p, t = .primitive p) ∧ n.IsZero
  | .string s => t = .primitive .char ∧ s = "\x00"
  | .array _ => False
  | .object _ => False

namespace Default

variable {t : FieldType}

private theorem isZero_of_nullable (nullable : t.isNullable = true) (d : Default) :
    d.isZero t = true ↔ d = null := by
  rw [isZero.eq_def, if_pos nullable, beq_iff_eq]

private theorem isZero_of_primitive (p : Primitive) (d : Default) :
    d.isZero (.primitive p) = true ↔
      match d with
      | bool b => b = false
      | whole n => n.value = 0
      | real x => x.isZero = true
      | char c => c = '\x00'
      | null => True
      | text _ => False
      | unsupported _ => False := by
  rw [isZero.eq_def, (FieldType.isNullable_eq_false_iff _).mpr ⟨p, rfl⟩, if_neg Bool.false_ne_true]
  cases d with
  | char c => exact beq_iff_eq.trans (Char.toNat_inj (c := c) (d := '\x00'))
  | _ => simp

private theorem isZero_number (p : Primitive) (n : Json.Number) :
    (ofMarker (.number n) (.primitive p)).isZero (.primitive p) = true ↔ n.IsZero := by
  cases n with
  | real x =>
    exact (isZero_of_primitive p (real x)).trans (beq_iff_eq.trans x.exact_num_eq_zero_iff.symm)
  | whole n =>
    cases float : (FieldType.primitive p).primitive?.any Primitive.isFloat with
    | false =>
      rw [ofMarker_whole float]
      exact isZero_of_primitive p (whole n)
    | true =>
      obtain ⟨x, rounded⟩ := (Json.Number.whole n).toDouble_finite
      rw [ofMarker_rounded float rounded]
      exact (isZero_of_primitive p (real x)).trans (Json.Number.isZero_toDouble rounded)

private theorem isZero_string (p : Primitive) (s : String) :
    (ofMarker (.string s) (.primitive p)).isZero (.primitive p) = true ↔
      FieldType.primitive p = .primitive .char ∧ s = "\x00" := by
  rcases ofMarker_string s (.primitive p) with ⟨c, char, rfl, same⟩ | ⟨other, same⟩
  · rw [same, isZero_of_primitive]
    obtain rfl : p = .char := Option.some.inj char
    have null : "\x00" = String.ofList ['\x00'] := by decide
    rw [null, String.ofList_inj, List.cons.injEq, and_iff_left rfl, and_iff_right rfl]
  · rw [same, isZero_of_primitive]
    exact iff_of_false id other

/-- The value of a marker is taken for zero exactly when the marker is silent. -/
theorem isZero_ofMarker_iff (m : Json.Value) (t : FieldType) :
    (ofMarker m t).isZero t = true ↔ IsSilent t m := by
  cases nullable : t.isNullable with
  | true =>
    have present : ¬ ∃ p, t = .primitive p := fun primitive => by
      rw [(t.isNullable_eq_false_iff).mpr primitive] at nullable
      cases nullable
    rw [isZero_of_nullable nullable]
    cases m with
    | null => exact iff_of_true ((eq_zero_iff null t).mpr nullable).symm trivial
    | bool b => exact iff_of_false nofun fun silent => present silent.1
    | number n => exact iff_of_false (ofMarker_ne_null (m := .number n) nofun t) fun silent => present silent.1
    | string s =>
      exact iff_of_false (ofMarker_ne_null (m := .string s) nofun t) fun silent => present ⟨_, silent.1⟩
    | array items => exact iff_of_false nofun id
    | object entries => exact iff_of_false nofun id
  | false =>
    obtain ⟨p, rfl⟩ := (t.isNullable_eq_false_iff).mp nullable
    cases m with
    | null =>
      refine iff_of_true ?_ trivial
      cases p <;> decide
    | bool b => exact (isZero_of_primitive p (bool b)).trans (and_iff_right ⟨p, rfl⟩).symm
    | number n => exact (isZero_number p n).trans (and_iff_right ⟨p, rfl⟩).symm
    | string s => exact isZero_string p s
    | array items => exact isZero_of_primitive p (unsupported _)
    | object entries => exact isZero_of_primitive p (unsupported _)

end Default

namespace Field

theorem isOptional_iff (f : Field) :
    f.isOptional = true ↔ ∃ m, f.marker = some m ∧ ¬ IsSilent f.type m := by
  cases marked : f.marker with
  | none =>
    rw [isOptional_of_unmarked marked]
    exact iff_of_false Bool.false_ne_true nofun
  | some m =>
    rw [isOptional_eq marked, Bool.not_eq_true', ← Bool.not_eq_true, Default.isZero_ofMarker_iff]
    exact ⟨fun speaks => ⟨m, rfl, speaks⟩, fun ⟨_, same, speaks⟩ => Option.some.inj same ▸ speaks⟩

/-- An absent value is nothing that a field could have by its marker. -/
theorem default_ne_null {f : Field} (optional : f.isOptional = true) : f.default ≠ .null := by
  obtain ⟨m, marked, speaks⟩ := f.isOptional_iff.mp optional
  rw [default_eq_ofMarker marked]
  refine Default.ofMarker_ne_null (fun null => speaks ?_) f.type
  exact null ▸ trivial

end Field

end Declaration

namespace Builder

open Declaration

/-- A field is optional exactly when it has a marker that is not silent. In the code of a screen the optional
fields have setters, and all others are parameters of the factory. -/
theorem setters_are_speaking_fields (screen : Screen) (s : Settings) :
    (∀ f : Field, f.isOptional = true ↔ ∃ m, f.marker = some m ∧ ¬ IsSilent f.type m) ∧
      ((Plan.ofScreen screen).code s).setters.map (·.parameters) =
        (screen.fields.filter (·.isOptional)).map (fun f => [(f.name, f.type.storageType)]) ∧
      ∃ factory, ((Plan.ofScreen screen).code s).function? "builder" = some factory ∧
        factory.parameters =
          (screen.fields.filter (!·.isOptional)).map fun f => (f.name, f.type.storageType) := by
  refine ⟨Field.isOptional_iff, ?_, _, function?_builder screen s, ?_⟩
  · rw [setters_code, List.map_map]
    rfl
  · rw [factoryCode, List.map_map]
    rfl

end Builder

end ScreenNavigation
