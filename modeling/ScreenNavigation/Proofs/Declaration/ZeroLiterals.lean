import Mathlib.Data.List.Basic
import ScreenNavigation.Declaration.Field
import ScreenNavigation.Proofs.Decimal.WholeNumbers

/-! Markers that say nothing. A type has one literal of its own for its zero; other markers may be taken for
zero as well, but they stay in the code as they are. -/
namespace ScreenNavigation.Declaration

open Decimal

/-- The marker is the literal that a field of the type has without one. -/
def IsOwnZero (t : FieldType) : Json.Value → Prop
  | .null => True
  | .bool b => t = .primitive .bool ∧ b = false
  | .number (.whole n) => (∃ p, t = .primitive p ∧ p ≠ .bool ∧ p ≠ .char) ∧ n.value = 0
  | .number (.real x) => (∃ p, t = .primitive p ∧ p.isFloat = true) ∧ x = Double.zero
  | .string s => t = .primitive .char ∧ s = "\x00"
  | .array _ => False
  | .object _ => False

namespace Default

/-- The value is the one zero of the type. -/
def IsZeroOf (t : FieldType) : Default → Prop
  | bool b => t = .primitive .bool ∧ b = false
  | whole n => (∃ p, t = .primitive p ∧ p ≠ .bool ∧ p ≠ .char ∧ p.isFloat = false) ∧ n.value = 0
  | real x => (∃ p, t = .primitive p ∧ p.isFloat = true) ∧ x = Double.zero
  | char c => t = .primitive .char ∧ c = '\x00'
  | null => t.isNullable = true
  | text _ => False
  | unsupported _ => False

theorem zero_primitive (p : Primitive) : zero (.primitive p) =
    match p with
    | .bool => bool false
    | .char => char '\x00'
    | .f32 => real Double.zero
    | .f64 => real Double.zero
    | _ => whole ⟨0, by decide, by decide⟩ := by
  cases p <;> rfl

private theorem whole_eq_zero_iff (n : Json.Whole) : n = ⟨0, by decide, by decide⟩ ↔ n.value = 0 := by
  cases n
  rw [Json.Whole.mk.injEq]

/-- No type has a second zero. -/
theorem eq_zero_iff (d : Default) (t : FieldType) : d = zero t ↔ IsZeroOf t d := by
  cases t with
  | primitive p =>
    rw [zero_primitive]
    cases p <;> cases d <;>
      simp [IsZeroOf, FieldType.isNullable, FieldType.category, Category.isNullable,
        Primitive.isFloat, whole_eq_zero_iff]
  | _ => cases d <;> simp [zero, IsZeroOf, FieldType.isNullable, FieldType.category, Category.isNullable]

theorem ofMarker_whole_cases (n : Json.Whole) (t : FieldType) :
    (t.primitive?.any Primitive.isFloat = false ∧ ofMarker (.number (.whole n)) t = whole n) ∨
      (t.primitive?.any Primitive.isFloat = true ∧ ∃ x, ofMarker (.number (.whole n)) t = real x ∧
        (x = Double.zero ↔ n.value = 0)) := by
  cases float : t.primitive?.any Primitive.isFloat with
  | false => exact .inl ⟨rfl, ofMarker_whole float⟩
  | true =>
    obtain ⟨x, rounded⟩ := (Json.Number.whole n).toDouble_finite
    refine .inr ⟨rfl, x, ofMarker_rounded float rounded, ?_⟩
    have zero := Format.round_whole_eq_zero_iff (decide (n.value < 0)) n.value.natAbs
    rw [Json.Number.toDouble] at rounded
    rw [rounded, Extended.finite.injEq, decide_eq_false_iff_not] at zero
    rw [zero]
    omega

theorem ofMarker_string (s : String) (t : FieldType) :
    (∃ c, t.primitive? = some .char ∧ s = String.ofList [c] ∧ ofMarker (.string s) t = char c) ∨
      (¬ (t = .primitive .char ∧ s = "\x00") ∧ ofMarker (.string s) t = text s) := by
  rw [ofMarker]
  split
  · rename_i c char single
    exact .inl ⟨c, char, String.toList_inj.mp (by rw [single, String.toList_ofList]), rfl⟩
  · rename_i other
    refine .inr ⟨?_, rfl⟩
    rintro ⟨rfl, rfl⟩
    exact other '\x00' rfl (by decide)

/-- A marker means the zero of a type only as the literal that stands for it. -/
theorem ofMarker_eq_zero_iff (m : Json.Value) (t : FieldType) :
    ofMarker m t = zero t ↔ IsOwnZero t m := by
  cases m with
  | null => exact iff_of_true rfl trivial
  | bool b => exact eq_zero_iff (bool b) t
  | number n =>
    cases n with
    | whole n =>
      rcases ofMarker_whole_cases n t with ⟨float, same⟩ | ⟨float, x, same, zero⟩
      · rw [same, eq_zero_iff]
        refine and_congr_left fun _ => exists_congr fun p => and_congr_right fun primitive => ?_
        subst primitive
        exact and_congr_right fun _ => and_iff_left float
      · rw [same, eq_zero_iff]
        refine and_congr (exists_congr fun p => and_congr_right fun primitive => ?_) zero
        subst primitive
        refine ⟨fun _ => ⟨?_, ?_⟩, fun _ => float⟩
        · rintro rfl
          cases float
        · rintro rfl
          cases float
    | real x => exact eq_zero_iff (real x) t
  | string s =>
    rcases ofMarker_string s t with ⟨c, _, rfl, same⟩ | ⟨other, same⟩
    · rw [same, eq_zero_iff]
      refine and_congr_right fun _ => ?_
      have null : "\x00" = String.ofList ['\x00'] := by decide
      rw [null, String.ofList_inj, List.cons.injEq, and_iff_left rfl]
    · rw [same, eq_zero_iff]
      exact iff_of_false id other
  | array items => exact eq_zero_iff (unsupported _) t
  | object entries => exact eq_zero_iff (unsupported _) t

theorem ofMarker_ne_null {m : Json.Value} (given : m ≠ .null) (t : FieldType) : ofMarker m t ≠ null := by
  cases m with
  | null => exact absurd rfl given
  | number n =>
    cases n with
    | whole n =>
      rcases ofMarker_whole_cases n t with ⟨_, same⟩ | ⟨_, x, same, _⟩
      · exact same ▸ nofun
      · exact same ▸ nofun
    | real x => exact nofun
  | string s =>
    rcases ofMarker_string s t with ⟨c, _, _, same⟩ | ⟨_, same⟩
    · exact same ▸ nofun
    · exact same ▸ nofun
  | _ => exact nofun

theorem isOwnZero_of_nullable {m : Json.Value} {t : FieldType} (nullable : t.isNullable = true)
    (silent : (ofMarker m t).isZero t = true) : IsOwnZero t m := by
  rw [isZero.eq_def, if_pos nullable, beq_iff_eq] at silent
  rw [← ofMarker_eq_zero_iff, silent, eq_zero_iff]
  exact nullable

section Spelling

/-- What a type without an absent value takes for zero, however it is spelled. -/
private def zeros : List Default :=
  [bool false, zero (.primitive .i32), real Double.zero, real Double.zero.neg, char '\x00']

private theorem mem_zeros {d : Default} {p : Primitive} (given : d ≠ null)
    (h : d.isZero (.primitive p) = true) : d ∈ zeros := by
  have present : FieldType.isNullable (.primitive p) = false := by cases p <;> rfl
  simp only [isZero, present, Bool.false_eq_true, if_false] at h
  cases d with
  | bool b =>
    cases b with
    | false => exact .head _
    | true => cases h
  | whole n =>
    have zero : whole n = zero (.primitive .i32) :=
      congrArg whole ((whole_eq_zero_iff n).mpr (by simpa using h))
    exact zero ▸ .tail _ (.head _)
  | real x =>
    obtain ⟨negative, magnitude, small⟩ := x
    obtain rfl : magnitude = 0 := by simpa [Finite.isZero] using h
    cases negative with
    | false => exact .tail _ (.tail _ (.head _))
    | true => exact .tail _ (.tail _ (.tail _ (.head _)))
  | char c =>
    have null : c = '\x00' := Char.toNat_inj.mp (by simpa using h)
    exact null ▸ .tail _ (.tail _ (.tail _ (.tail _ (.head _))))
  | null => exact absurd rfl given
  | text s => cases h
  | unsupported json => cases h

/-- The spelling of a literal. -/
private def spelling : Source.Expression → String
  | .literal digits => digits
  | .negative (.literal digits) => "-" ++ digits
  | .name p => String.join (p.segments.map (·.name))
  | _ => ""

private theorem spelling_zeros : ∀ p ∈ Primitive.all, ∀ d ∈ zeros,
    spelling (d.expression (.primitive p)) =
      spelling ((zero (.primitive p)).expression (.primitive p)) → d = zero (.primitive p) := by
  decide

private theorem mem_all (p : Primitive) : p ∈ Primitive.all := by cases p <;> decide

/-- A marker that is taken for zero shows in the code unless it is the type's own zero. -/
theorem isOwnZero_of_expression_eq {m : Json.Value} {t : FieldType}
    (silent : (ofMarker m t).isZero t = true)
    (same : (ofMarker m t).expression t = (zero t).expression t) : IsOwnZero t m := by
  by_cases null : m = .null
  · exact null ▸ trivial
  cases t with
  | primitive p =>
    rw [← ofMarker_eq_zero_iff]
    exact spelling_zeros p (mem_all p) _ (mem_zeros (ofMarker_ne_null null _) silent)
      (congrArg spelling same)
  | _ => exact isOwnZero_of_nullable rfl silent

end Spelling

end Default
end ScreenNavigation.Declaration
