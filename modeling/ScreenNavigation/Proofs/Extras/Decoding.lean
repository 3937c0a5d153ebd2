import ScreenNavigation.Proofs.Decimal.WholeNumbers
import ScreenNavigation.Proofs.Extras.Entries

/-! What comes out of extras, whatever they hold. A value is decoded from what its key holds or it is
missing, and a decoded floating-point number is finite. -/
namespace ScreenNavigation.Extras

open Decimal Json

theorem Shape.decode_double {v : Value} {x : Extended .double} (h : double.decode v = .ok x) :
    ∃ y, x = .finite y := by
  cases v with
  | number n =>
    obtain ⟨y, finite⟩ := n.toDouble_finite
    cases h
    exact ⟨y, finite⟩
  | null | bool | string | array | object => cases h

variable {e : Extras} {s : Shape} {key : String} {a : s.Carrier}

theorem get?_eq_some (h : e.get? s key = some a) :
    ∃ v, e.find? key = some v ∧ s.decode v = .ok a := by
  have read : e.tryGet s key = .ok (some a) := by
    rw [get?] at h
    split at h
    · rename_i read
      rw [read, h]
    · cases h
  rw [tryGet] at read
  split at read
  · cases read
  · cases read
  · rename_i v _ found
    split at read
    · rename_i decoded
      cases read
      exact ⟨v, found, decoded⟩
    · cases read

theorem get?_of_decoded {v : Value} (found : e.find? key = some v) (present : v ≠ .null)
    (decoded : s.decode v = .ok a) : e.get? s key = some a := by
  rw [get?, tryGet_of_decoded found present decoded]

/-- Nothing is read from an entry that is missing, null or of another shape, and from no other entry. -/
theorem get?_eq_none_iff : e.get? s key = none ↔ e.find? key = none ∨ e.find? key = some .null ∨
    ∃ v fault, e.find? key = some v ∧ s.decode v = .error fault := by
  cases found : e.find? key with
  | none => simp [get?, tryGet, found]
  | some v =>
    by_cases null : v = .null
    · simp [get?, tryGet, found, null]
    · cases decoded : s.decode v with
      | ok a => simp [get?_of_decoded found null decoded, null, decoded]
      | error fault =>
        cases read : e.get? s key with
        | none => simp [decoded]
        | some a =>
          obtain ⟨w, same, kept⟩ := get?_eq_some read
          cases found.symm.trans same
          cases decoded.symm.trans kept

/-- A floating-point number that was stored in any way, or a finite default in its place. -/
theorem getOr_double (e : Extras) (key : String) (d : Double) :
    ∃ x, e.getOr .double key (.finite d) = .finite x := by
  rw [getOr]
  cases h : e.get? .double key with
  | none => exact ⟨d, rfl⟩
  | some a =>
    obtain ⟨v, _, decoded⟩ := get?_eq_some h
    exact Shape.decode_double decoded

end ScreenNavigation.Extras
