import Mathlib.Logic.Function.Iterate
import ScreenNavigation.Proofs.Declaration.StorageTypes
import ScreenNavigation.Source.SyntaxText

/-! Types of nested arrays in generated code. However deep arrays nest, each one is one vector. An option stands
around the whole type unless that is primitive, and around a boxed leaf, and nowhere else. -/
namespace ScreenNavigation

namespace Source

theorem Token.listTexts_append (a b : List Token) : listTexts (a ++ b) = listTexts a ++ listTexts b := by
  induction a with
  | nil => rfl
  | cons t a ih => rw [List.cons_append, listTexts, listTexts, ih, List.append_assoc]

namespace Ty

/-- How often a type makes something optional, by its texts. -/
def options (t : Ty) : Nat := (Token.listTexts t.tokens).count "Option"

theorem tokens_apply (name : String) (t : Ty) :
    (Ty.apply name t).tokens = .word name :: .mark '<' false :: (t.tokens ++ [.mark '>' false]) := by
  have written : (Ty.apply name t).tokens =
      .word name :: .mark '<' false :: (([] ++ [] ++ t.tokens ++ []) ++ [.mark '>' false]) := rfl
  rw [written, List.append_nil, List.append_nil, List.nil_append]

theorem options_apply (name : String) (t : Ty) :
    (Ty.apply name t).options = (if name = "Option" then 1 else 0) + t.options := by
  have written : Token.listTexts (Ty.apply name t).tokens =
      name :: "<" :: (Token.listTexts t.tokens ++ [">"]) := by
    rw [tokens_apply, Token.listTexts, Token.listTexts, Token.listTexts_append]
    rfl
  rw [options, written, options]
  simp [List.count_cons, Nat.add_comm]

end Ty

end Source

namespace Declaration

open Source

theorem Primitive.options_named (p : Primitive) : (Ty.named p.name).options = 0 := by cases p <;> decide

namespace FieldType

def isArray : FieldType → Bool
  | array _ => true
  | _ => false

def isBoxed : FieldType → Bool
  | boxed _ => true
  | _ => false

/-- How deep arrays nest. -/
def depth : FieldType → Nat
  | array element => element.depth + 1
  | _ => 0

/-- What all arrays are around. -/
def leaf : FieldType → FieldType
  | array element => element.leaf
  | t => t

/-- How often the path of a leaf makes something optional by itself. -/
def pathOptions : FieldType → Nat
  | serializable path => (Ty.path path.path).options
  | array element => element.pathOptions
  | _ => 0

theorem isArray_leaf (t : FieldType) : t.leaf.isArray = false := by
  induction t with
  | array element ih => exact ih
  | _ => rfl

theorem iterate_array_leaf (t : FieldType) : array^[t.depth] t.leaf = t := by
  induction t with
  | array element ih => rw [depth, leaf, Function.iterate_succ_apply', ih]
  | _ => rfl

theorem storageType_primitive (p : Primitive) : (primitive p).storageType = (primitive p).valueType := by
  cases p <;> rfl

/-- Every type but a primitive one is stored in one option. -/
theorem storageType_of_ne {t : FieldType} (other : ∀ p, t ≠ primitive p) :
    t.storageType = .apply "Option" t.valueType := by
  cases t with
  | primitive p => exact absurd rfl (other p)
  | _ => rfl

/-- Boxed elements of an array are as in storage, all others as values. -/
theorem elementType_eq (t : FieldType) :
    t.elementType = if t.isBoxed then t.storageType else t.valueType := by
  cases t <;> rfl

/-- Arrays in arrays are vectors in vectors around the type of the innermost element. -/
theorem valueType_iterate_array (n : Nat) (t : FieldType) :
    (array^[n + 1] t).valueType = (Ty.apply "Vec")^[n + 1] t.elementType := by
  have inside : Function.Semiconj elementType array (Ty.apply "Vec") := fun _ => rfl
  rw [Function.iterate_succ_apply', Function.iterate_succ_apply', ← inside.iterate_right n t]
  rfl

theorem options_elementType (t : FieldType) : t.elementType.options = t.leaf.isBoxed.toNat + t.pathOptions := by
  induction t with
  | primitive p => exact p.options_named
  | boxed p => exact (Ty.options_apply "Option" _).trans (congrArg (1 + ·) p.options_named)
  | string => decide
  | serializable path => exact (Nat.zero_add _).symm
  | array element ih => exact (Ty.options_apply "Vec" _).trans ((Nat.zero_add _).trans ih)

/-- A boxed type alone leaves its option to the storage; inside of arrays it keeps it. -/
theorem options_valueType (t : FieldType) :
    t.valueType.options = (t.isArray && t.leaf.isBoxed).toNat + t.pathOptions := by
  cases t with
  | primitive p => exact p.options_named
  | boxed p => exact p.options_named
  | string => decide
  | serializable path => exact (Nat.zero_add _).symm
  | array element => exact (array element).options_elementType

theorem options_storageType (t : FieldType) :
    t.storageType.options = t.isNullable.toNat + (t.isArray && t.leaf.isBoxed).toNat + t.pathOptions := by
  rw [storageType, Nat.add_assoc, ← options_valueType]
  cases t.isNullable with
  | false => exact (Nat.zero_add _).symm
  | true => exact Ty.options_apply "Option" _

/-- The types of a field, for arrays of any depth. Storage is one option around the type of the value, and for
primitive types the type of the value itself. Every type is a number of arrays around a leaf that is none. The
value of an array has as many vectors, around the option of a boxed leaf and around the type of any other. Besides
the option of storage and that of a boxed leaf there are only those that a path has by itself. -/
theorem nested_array_types (t : FieldType) :
    (∀ p, t = primitive p → t.storageType = t.valueType) ∧
    ((∀ p, t ≠ primitive p) → t.storageType = .apply "Option" t.valueType) ∧
    (t.leaf.isArray = false ∧ array^[t.depth] t.leaf = t) ∧
    (∀ n p, t = array^[n + 1] (boxed p) →
      t.valueType = (Ty.apply "Vec")^[n + 1] (.apply "Option" (.named p.name))) ∧
    (∀ n inner, t = array^[n + 1] inner → inner.isBoxed = false →
      t.valueType = (Ty.apply "Vec")^[n + 1] inner.valueType) ∧
    t.storageType.options = t.isNullable.toNat + (t.isArray && t.leaf.isBoxed).toNat + t.pathOptions := by
  refine ⟨?_, storageType_of_ne, ⟨t.isArray_leaf, t.iterate_array_leaf⟩, ?_, ?_, t.options_storageType⟩
  · rintro p rfl
    exact storageType_primitive p
  · rintro n p rfl
    have kept : (boxed p).isBoxed = true := rfl
    have stored := storageType_of_ne (t := boxed p) nofun
    rw [valueType_iterate_array, elementType_eq, if_pos kept, stored]
    rfl
  · rintro n inner rfl plain
    rw [valueType_iterate_array, elementType_eq, if_neg (by simp [plain])]

/-- A primitive type, and arrays in arrays around a boxed and around a textual leaf. -/
theorem nested_array_types_two_deep :
    (primitive .u8).storageType = .named "u8" ∧
    (array (array (boxed .i32))).storageType = .apply "Option" (array (array (boxed .i32))).valueType ∧
    (array (array (boxed .i32))).valueType = .apply "Vec" (.apply "Vec" (.apply "Option" (.named "i32"))) ∧
    (array (array string)).valueType = .apply "Vec" (.apply "Vec" (.named "String")) ∧
    (array (array (boxed .i32))).storageType.options = 2 :=
  have ⟨_, stored, _, around, _, options⟩ := nested_array_types (array (array (boxed .i32)))
  have ⟨_, _, _, _, plain, _⟩ := nested_array_types (array (array string))
  ⟨(nested_array_types (primitive .u8)).1 .u8 rfl, stored nofun, around 1 .i32 rfl, plain 1 string rfl rfl,
    options⟩

end FieldType

end Declaration

end ScreenNavigation
