import ScreenNavigation.Json.Value

/-! Rounding whole numbers to a binary format. A number of few binary digits stays far below infinity, so
every number that JSON values keep is a finite double, and only zero becomes zero. -/
namespace ScreenNavigation.Decimal

namespace Quotient

theorem nearest_le {q : Quotient} {k : Nat} (h : q.num < k * q.den) : q.nearest ≤ k := by
  have below : q.num / q.den < k := Nat.div_lt_of_lt_mul (Nat.mul_comm k q.den ▸ h)
  unfold nearest
  dsimp only
  split
  · exact below
  · exact Nat.le_of_lt below

private theorem two_pow_add (m n : Nat) : Nat.pow 2 (m + n) = Nat.pow 2 m * Nat.pow 2 n :=
  Nat.pow_add 2 m n

theorem log2_whole {n : Nat} (pos : n ≠ 0) : (Quotient.mk n 1).log2 = n.log2 := by
  have low : Nat.pow 2 n.log2 ≤ n := Nat.log2_self_le pos
  have one : Nat.log2 1 = 0 := by decide
  have kept : ¬ ((Quotient.mk n 1).scale 2 (-((n.log2 : Int) - (0 : Nat)))).num <
      ((Quotient.mk n 1).scale 2 (-((n.log2 : Int) - (0 : Nat)))).den := by
    unfold scale
    split
    · rename_i none
      have zero : (-((n.log2 : Int) - (0 : Nat))).toNat = 0 := by omega
      rw [zero]
      change ¬ n * 1 < 1
      omega
    · have exponent : (-(-((n.log2 : Int) - (0 : Nat)))).toNat = n.log2 := by omega
      rw [exponent, Nat.one_mul]
      exact Nat.not_lt.mpr low
  unfold log2
  dsimp only
  rw [one, if_neg kept]
  omega

/-- A whole number is scaled to at most `p + 1` binary digits. -/
theorem scale_whole_lt (n p : Nat) :
    ((Quotient.mk n 1).scale 2 (-((n.log2 : Int) - p))).num <
      Nat.pow 2 (p + 1) * ((Quotient.mk n 1).scale 2 (-((n.log2 : Int) - p))).den := by
  have high : n < Nat.pow 2 (n.log2 + 1) := Nat.lt_log2_self
  unfold scale
  split
  · have exponent : p + 1 = (n.log2 + 1) + (-((n.log2 : Int) - p)).toNat := by omega
    rw [Nat.mul_one, exponent, two_pow_add]
    exact Nat.mul_lt_mul_of_pos_right high (Nat.pow_pos (by decide))
  · have exponent : n.log2 + 1 = (p + 1) + (-(-((n.log2 : Int) - p))).toNat := by omega
    rw [Nat.one_mul, ← two_pow_add, ← exponent]
    exact high

end Quotient

namespace Format

theorem precision_le_depth (f : Format) : f.precision ≤ f.depth := Nat.le_add_left _ _

/-- The word of a whole number is bounded by the number of its binary digits. -/
theorem word_whole_le (f : Format) {n : Nat} (pos : n ≠ 0) :
    f.word ⟨n, 1⟩ ≤ (n.log2 + f.depth - (f.precision - 1) + 2) * f.unit := by
  have precise := f.precision_le_depth
  have exponent : max ((n.log2 : Int) - (f.precision - 1 : Nat)) (-(f.depth : Int)) =
      (n.log2 : Int) - (f.precision - 1 : Nat) := by omega
  have field : ((n.log2 : Int) - (f.precision - 1 : Nat) + f.depth).toNat =
      n.log2 + f.depth - (f.precision - 1) := by omega
  have mantissa := Quotient.nearest_le (Quotient.scale_whole_lt n (f.precision - 1))
  have two_units : Nat.pow 2 (f.precision - 1 + 1) = 2 * f.unit := Nat.mul_comm _ _
  unfold word
  dsimp only
  rw [if_neg pos, Quotient.log2_whole pos, exponent, field, Nat.add_mul]
  exact Nat.add_le_add_left (two_units ▸ mantissa) _

theorem round_whole (negative : Bool) {n : Nat} (small : n < 0x10000000000000000) :
    ∃ x, double.round negative ⟨n, 1⟩ = .finite x := by
  have finite : double.word ⟨n, 1⟩ < double.infinity := by
    by_cases zero : n = 0
    · rw [word, if_pos zero]
      decide
    · have digits : n.log2 < 64 := (Nat.log2_lt zero).mpr small
      calc double.word ⟨n, 1⟩
        _ ≤ (n.log2 + double.depth - (double.precision - 1) + 2) * double.unit :=
            double.word_whole_le zero
        _ ≤ 1087 * double.unit := by
            have depth : double.depth = 1074 := by decide
            have precision : double.precision = 53 := rfl
            exact Nat.mul_le_mul_right _ (by omega)
        _ < double.infinity := by decide
  exact ⟨_, dif_pos finite⟩

/-- Only zero is rounded to zero. -/
theorem word_whole_pos {n : Nat} (pos : n ≠ 0) : 0 < double.word ⟨n, 1⟩ := by
  have precision : double.precision = 53 := rfl
  have depth : double.depth = 1074 := by decide
  have unit : 0 < double.unit := Nat.pow_pos (by decide)
  have field : 0 < (max ((n.log2 : Int) - (double.precision - 1 : Nat)) (-(double.depth : Int)) +
      double.depth).toNat := by omega
  unfold word
  dsimp only
  rw [if_neg pos, Quotient.log2_whole pos]
  exact Nat.add_pos_left (Nat.mul_pos field unit) _

theorem round_whole_eq_zero_iff (negative : Bool) (n : Nat) :
    double.round negative ⟨n, 1⟩ = .finite Double.zero ↔ negative = false ∧ n = 0 := by
  constructor
  · intro zero
    rw [round] at zero
    split at zero
    · rw [Extended.finite.injEq, Double.zero, Finite.mk.injEq] at zero
      refine ⟨zero.1, Decidable.byContradiction fun pos => ?_⟩
      exact absurd zero.2 (Nat.pos_iff_ne_zero.mp (word_whole_pos pos))
    · cases zero
  · rintro ⟨rfl, rfl⟩
    decide

end Format

end ScreenNavigation.Decimal

namespace ScreenNavigation.Json

open Decimal

theorem Number.toDouble_finite (n : Number) : ∃ x, n.toDouble = .finite x := by
  cases n with
  | whole n =>
    have lower := n.lower
    have upper := n.upper
    exact Format.round_whole _ (by omega)
  | real x => exact ⟨x, rfl⟩

theorem Number.isZero_toDouble {n : Whole} {x : Double} (rounded : (Number.whole n).toDouble = .finite x) :
    x.isZero = true ↔ n.value = 0 := by
  rw [Number.toDouble, Format.round] at rounded
  split at rounded
  · cases rounded
    refine beq_iff_eq.trans ⟨fun zero => Decidable.byContradiction fun given => ?_, fun zero => ?_⟩
    · exact absurd zero (Nat.pos_iff_ne_zero.mp (Format.word_whole_pos (Int.natAbs_ne_zero.mpr given)))
    · exact if_pos (Int.natAbs_eq_zero.mpr zero)
  · cases rounded

end ScreenNavigation.Json
