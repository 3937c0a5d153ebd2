import ScreenNavigation.Declaration.FieldType

/-! The types that fields have in generated code, taken apart again. Primitive fields have their own types, and
all others have options. -/
namespace ScreenNavigation

namespace Source.Ty

/-- The type inside an option. -/
def optional? : Ty → Option Ty
  | .path (.mk false [.mk "Option" (.angle false [.type t] false)]) => some t
  | _ => none

/-- The name of a type that is one word. -/
def word? : Ty → Option String
  | .path (.mk false [.mk name .none]) => some name
  | _ => none

end Source.Ty

namespace Declaration

theorem Primitive.ofName?_name (p : Primitive) : ofName? p.name = some p := by cases p <;> decide

namespace FieldType

theorem isNullable_eq_false_iff (t : FieldType) : t.isNullable = false ↔ ∃ p, t = .primitive p := by
  cases t with
  | primitive p => exact iff_of_true (by cases p <;> rfl) ⟨p, rfl⟩
  | _ => exact iff_of_false nofun nofun

theorem optional?_storageType (t : FieldType) :
    t.storageType.optional? = if t.isNullable then some t.valueType else none := by
  cases t with
  | primitive p => cases p <;> rfl
  | _ => rfl

end FieldType

end Declaration

end ScreenNavigation
