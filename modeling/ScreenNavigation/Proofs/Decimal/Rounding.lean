import Mathlib.Algebra.Order.Field.Power
import Mathlib.Algebra.Order.Ring.Rat
import Mathlib.Tactic.FieldSimp
import Mathlib.Tactic.Linarith
import Mathlib.Tactic.LinearCombination
import Mathlib.Tactic.Positivity
import Mathlib.Tactic.Ring
import ScreenNavigation.Proofs.Decimal.WholeNumbers
import ScreenNavigation.Proofs.Decimal.Widening

/-! Rounding as a choice between neighbours. The words of a format stand for rationals in their order, and a
value is rounded to a word when it lies between the midpoints to the words beside it. A midpoint itself is
rounded to the even one. -/
namespace ScreenNavigation.Decimal

namespace Quotient

def value (q : Quotient) : ℚ := q.num / q.den

/-- A power is a quotient of natural powers, one of which is one. -/
theorem zpow_mul_pow {base : ℕ} (pos : 0 < base) (e : ℤ) :
    (base : ℚ) ^ e * (Nat.pow base (-e).toNat : ℕ) = (Nat.pow base e.toNat : ℕ) := by
  rw [Nat.pow_eq, Nat.pow_eq, Nat.cast_pow, Nat.cast_pow, ← zpow_natCast, ← zpow_natCast,
    ← zpow_add₀ (Nat.cast_ne_zero.mpr pos.ne')]
  congr 1
  omega

theorem value_scale {base : ℕ} (pos : 0 < base) (q : Quotient) (e : ℤ) :
    (q.scale base e).value = q.value * (base : ℚ) ^ e := by
  have power := zpow_mul_pow pos e
  have one : Nat.pow base 0 = 1 := rfl
  unfold scale
  split
  · have none : (-e).toNat = 0 := by omega
    rw [none, one, Nat.cast_one, mul_one] at power
    rw [value, value, power, Nat.cast_mul, mul_div_right_comm]
  · have none : e.toNat = 0 := by omega
    rw [none, one, Nat.cast_one] at power
    rw [value, value, eq_inv_of_mul_eq_one_left power, Nat.cast_mul, div_mul_eq_div_div,
      div_eq_mul_inv _ (Nat.cast (Nat.pow _ _))]

theorem den_scale_pos {base : ℕ} (pos : 0 < base) {q : Quotient} (den : 0 < q.den) (e : ℤ) :
    0 < (q.scale base e).den := by
  unfold scale
  split
  · exact den
  · exact Nat.mul_pos den (Nat.pow_pos pos)

theorem value_lt_iff {q : Quotient} (den : 0 < q.den) (n : ℕ) : q.value < n ↔ q.num < n * q.den := by
  rw [value, div_lt_iff₀ (Nat.cast_pos.mpr den), ← Nat.cast_mul, Nat.cast_lt]

private theorem log2_bounds {n : ℕ} (pos : n ≠ 0) :
    (2 : ℚ) ^ (n.log2 : ℤ) ≤ n ∧ (n : ℚ) < 2 ^ ((n.log2 : ℤ) + 1) := by
  have low := Nat.log2_self_le pos
  have high := Nat.lt_log2_self (n := n)
  refine ⟨by exact_mod_cast low, by exact_mod_cast high⟩

theorem log2_spec {q : Quotient} (num : q.num ≠ 0) (den : 0 < q.den) :
    (2 : ℚ) ^ q.log2 ≤ q.value ∧ q.value < 2 ^ (q.log2 + 1) := by
  obtain ⟨numLow, numHigh⟩ := log2_bounds num
  obtain ⟨denLow, denHigh⟩ := log2_bounds den.ne'
  have positive : (0 : ℚ) < q.den := Nat.cast_pos.mpr den
  set e : ℤ := (q.num.log2 : ℤ) - q.den.log2 with he
  have below : (2 : ℚ) ^ (e - 1) ≤ q.value := by
    rw [value, le_div_iff₀ positive]
    calc (2 : ℚ) ^ (e - 1) * q.den
      _ ≤ 2 ^ (e - 1) * 2 ^ ((q.den.log2 : ℤ) + 1) :=
        mul_le_mul_of_nonneg_left denHigh.le (by positivity)
      _ = 2 ^ (q.num.log2 : ℤ) := by
        rw [← zpow_add₀ two_ne_zero]
        congr 1
        omega
      _ ≤ q.num := numLow
  have above : q.value < 2 ^ (e + 1) := by
    rw [value, div_lt_iff₀ positive]
    calc (q.num : ℚ)
      _ < 2 ^ ((q.num.log2 : ℤ) + 1) := numHigh
      _ = 2 ^ (e + 1) * 2 ^ (q.den.log2 : ℤ) := by
        rw [← zpow_add₀ two_ne_zero]
        congr 1
        omega
      _ ≤ 2 ^ (e + 1) * q.den := mul_le_mul_of_nonneg_left denLow (by positivity)
  have scaled : (q.scale 2 (-e)).num < (q.scale 2 (-e)).den ↔ q.value < 2 ^ e := by
    have less := value_lt_iff (den_scale_pos two_pos den (-e)) 1
    rw [Nat.one_mul, value_scale two_pos, Nat.cast_ofNat, Nat.cast_one, zpow_neg, ← div_eq_mul_inv,
      div_lt_one (by positivity)] at less
    exact less.symm
  unfold log2
  dsimp only
  rw [← he]
  split
  · rename_i less
    rw [Int.sub_add_cancel]
    exact ⟨below, scaled.mp less⟩
  · rename_i notLess
    exact ⟨not_lt.mp (mt scaled.mpr notLess), above⟩

/-- The nearest natural is at most one half away, and even where it is not the only one. -/
theorem nearest_spec {q : Quotient} (den : 0 < q.den) :
    (q.nearest : ℚ) - 1 / 2 ≤ q.value ∧ q.value ≤ q.nearest + 1 / 2 ∧
      (q.value = q.nearest - 1 / 2 ∨ q.value = q.nearest + 1 / 2 → q.nearest % 2 = 0) := by
  have positive : (0 : ℚ) < q.den := Nat.cast_pos.mpr den
  have whole := Nat.div_add_mod q.num q.den
  have rest := Nat.mod_lt q.num den
  have spec : 2 * q.nearest * q.den ≤ 2 * q.num + q.den ∧ 2 * q.num ≤ 2 * q.nearest * q.den + q.den ∧
      (2 * q.nearest * q.den = 2 * q.num + q.den ∨ 2 * q.num = 2 * q.nearest * q.den + q.den →
        q.nearest % 2 = 0) := by
    unfold nearest
    dsimp only
    generalize q.num / q.den = k at *
    generalize q.num % q.den = r at *
    have both : 2 * k * q.den = 2 * (q.den * k) := by ring
    have next : 2 * (k + 1) * q.den = 2 * (q.den * k) + 2 * q.den := by ring
    split
    · rw [next]
      omega
    · rw [both]
      omega
  have scaled : q.value * q.den = q.num := div_mul_cancel₀ _ positive.ne'
  obtain ⟨low, high, even⟩ := spec
  have low' : 2 * (q.nearest : ℚ) * q.den ≤ 2 * q.num + q.den := by exact_mod_cast low
  have high' : 2 * (q.num : ℚ) ≤ 2 * q.nearest * q.den + q.den := by exact_mod_cast high
  refine ⟨le_of_mul_le_mul_right (by linarith) positive, le_of_mul_le_mul_right (by linarith) positive,
    fun tie => even (tie.imp (fun same => ?_) fun same => ?_)⟩
  · have cast : 2 * (q.nearest : ℚ) * q.den = 2 * q.num + q.den := by
      rw [← scaled, same]
      ring
    exact_mod_cast cast
  · have cast : 2 * (q.num : ℚ) = 2 * q.nearest * q.den + q.den := by
      rw [← scaled, same]
      ring
    exact_mod_cast cast

end Quotient

namespace Format

variable (f : Format)

/-- How far the next word is above a word. -/
def step (w : ℕ) : ℚ := 2 ^ ((max (w / f.unit) 1 : ℕ) - 1 - f.depth : ℤ)

/-- What a word stands for, also from infinity on. -/
def value (w : ℕ) : ℚ := (if w < f.unit then w else f.unit + w % f.unit : ℕ) * f.step w

/-- The upper end of the values that are rounded to a word. -/
def midpoint (w : ℕ) : ℚ := f.value w + f.step w / 2

theorem step_pos (w : ℕ) : 0 < f.step w := by
  rw [step]
  positivity

theorem unit_pos : 0 < f.unit := Nat.two_pow_pos _

section Mantissa

variable {f} {k m : ℕ}

/-- A mantissa with all its digits, or one with the least exponent. -/
theorem step_mantissa (full : f.unit ≤ m ∨ k = 0) (small : m < 2 * f.unit) :
    f.step (k * f.unit + m) = 2 ^ ((k : ℤ) - f.depth) := by
  have pos := f.unit_pos
  have field : (k * f.unit + m) / f.unit = k + m / f.unit := by
    rw [Nat.mul_comm, Nat.mul_add_div pos]
  rw [step, field]
  congr 1
  rcases full with full | rfl
  · rw [Nat.div_eq_of_lt_le (k := 1) (by omega) (by omega)]
    omega
  · have one : m / f.unit ≤ 1 := Nat.le_of_lt_succ (Nat.div_lt_of_lt_mul (by omega))
    omega

theorem value_mantissa (full : f.unit ≤ m ∨ k = 0) (small : m < 2 * f.unit) :
    f.value (k * f.unit + m) = m * 2 ^ ((k : ℤ) - f.depth) := by
  have pos := f.unit_pos
  rw [value, step_mantissa full small]
  congr 2
  by_cases few : m < f.unit
  · obtain rfl : k = 0 := full.resolve_left (Nat.not_le.mpr few)
    rw [Nat.zero_mul, Nat.zero_add, if_pos few]
  · rw [if_neg (by omega), Nat.mul_comm, Nat.mul_add_mod, Nat.mod_eq_sub_mod (Nat.not_lt.mp few),
      Nat.mod_eq_of_lt (by omega)]
    omega

/-- Every word has a mantissa, which is full unless the exponent is the least. -/
theorem exists_mantissa (f : Format) (w : ℕ) :
    ∃ k m, w = k * f.unit + m ∧ (f.unit ≤ m ∨ k = 0) ∧ m < 2 * f.unit := by
  have pos := f.unit_pos
  have rest := Nat.mod_lt w pos
  by_cases small : w < f.unit
  · exact ⟨0, w, by omega, .inr rfl, by omega⟩
  · obtain ⟨k, field⟩ := Nat.exists_eq_succ_of_ne_zero (Nat.div_pos (Nat.not_lt.mp small) pos).ne'
    refine ⟨k, f.unit + w % f.unit, ?_, .inl (Nat.le_add_right _ _), by omega⟩
    rw [← Nat.add_assoc, ← Nat.succ_mul, ← field, Nat.div_add_mod']

theorem value_succ (f : Format) (w : ℕ) : f.value (w + 1) = f.value w + f.step w := by
  obtain ⟨k, m, rfl, full, small⟩ := f.exists_mantissa w
  rw [value_mantissa full small, step_mantissa full small]
  by_cases last : m + 1 < 2 * f.unit
  · rw [Nat.add_assoc, value_mantissa (full.imp_left Nat.le_succ_of_le) last, Nat.cast_succ]
    ring
  · -- The mantissa overflows, so the exponent grows and the mantissa starts again.
    have overflow : k * f.unit + m + 1 = (k + 1) * f.unit + f.unit := by
      rw [Nat.add_mul]
      omega
    have mantissa : (m : ℚ) + 1 = 2 * f.unit := by
      exact_mod_cast (by omega : m + 1 = 2 * f.unit)
    rw [overflow, value_mantissa (.inl le_rfl) (by have := f.unit_pos; omega), Nat.cast_succ,
      add_sub_right_comm, zpow_add_one₀ two_ne_zero]
    linear_combination (-(2 : ℚ) ^ ((k : ℤ) - f.depth)) * mantissa

theorem value_strictMono (f : Format) : StrictMono f.value :=
  strictMono_nat_of_lt_succ fun w => by
    rw [value_succ]
    exact lt_add_of_pos_right _ (f.step_pos w)

/-- A mantissa may also have just overflowed. -/
theorem value_mantissa_le (full : f.unit ≤ m ∨ k = 0) (small : m ≤ 2 * f.unit) :
    f.value (k * f.unit + m) = m * 2 ^ ((k : ℤ) - f.depth) := by
  rcases Nat.lt_or_eq_of_le small with less | rfl
  · exact value_mantissa full less
  · have pos := f.unit_pos
    have before : k * f.unit + 2 * f.unit = k * f.unit + (2 * f.unit - 1) + 1 := by omega
    rw [before, value_succ, value_mantissa (.inl (by omega)) (by omega),
      step_mantissa (.inl (by omega)) (by omega), Nat.cast_sub (by omega)]
    push_cast
    ring

end Mantissa

theorem midpoint_eq (w : ℕ) : f.midpoint w = (f.value w + f.value (w + 1)) / 2 := by
  rw [midpoint, value_succ]
  ring

theorem midpoint_strictMono : StrictMono f.midpoint := fun u w less => by
  rw [midpoint_eq, midpoint_eq]
  have here := f.value_strictMono less
  have next := f.value_strictMono (Nat.succ_lt_succ less)
  linarith

/-- The value lies between the midpoints beside the word; a midpoint needs an even word. -/
structure RoundsTo (v : ℚ) (w : ℕ) : Prop where
  low : w ≠ 0 → f.midpoint (w - 1) ≤ v
  high : v ≤ f.midpoint w
  even : w ≠ 0 ∧ v = f.midpoint (w - 1) ∨ v = f.midpoint w → w % 2 = 0

namespace RoundsTo

variable {f} {v : ℚ} {u w : ℕ}

private theorem not_lt (hu : f.RoundsTo v u) (hw : f.RoundsTo v w) : ¬ u < w := by
  intro less
  have pos : w ≠ 0 := by omega
  have ends : f.midpoint u ≤ f.midpoint (w - 1) :=
    f.midpoint_strictMono.monotone (Nat.le_sub_one_of_lt less)
  have low := hw.low pos
  have high := hu.high
  have next : u = w - 1 := f.midpoint_strictMono.injective (by linarith)
  have even := hu.even (.inr (by linarith))
  have even' := hw.even (.inl ⟨pos, by linarith⟩)
  omega

/-- A value is rounded to one word only. -/
theorem unique (hu : f.RoundsTo v u) (hw : f.RoundsTo v w) : u = w :=
  Nat.le_antisymm (Nat.not_lt.mp (hw.not_lt hu)) (Nat.not_lt.mp (hu.not_lt hw))

end RoundsTo

theorem midpoint_pred {w : ℕ} (pos : w ≠ 0) : f.midpoint (w - 1) = f.value w - f.step (w - 1) / 2 := by
  have next := f.value_succ (w - 1)
  rw [Nat.sub_one_add_one pos] at next
  rw [midpoint, next]
  ring

section Nearest

variable {f} {k m : ℕ} {v : ℚ}

theorem word_mod_two (precise : 2 ≤ f.precision) (k m : ℕ) : (k * f.unit + m) % 2 = m % 2 := by
  have even : f.unit = 2 * 2 ^ (f.precision - 2) := by
    rw [unit, Nat.pow_eq, ← Nat.pow_succ']
    congr 1
    omega
  have units : k * f.unit = 2 * (k * 2 ^ (f.precision - 2)) := by rw [even, Nat.mul_left_comm]
  omega

private theorem le_step (full : f.unit ≤ m ∨ k = 0) (small : m ≤ 2 * f.unit) :
    2 ^ ((k : ℤ) - f.depth) ≤ f.step (k * f.unit + m) := by
  have next := f.value_succ (k * f.unit + m)
  rcases Nat.lt_or_eq_of_le small with less | rfl
  · rw [step_mantissa full less]
  · have overflow : k * f.unit + 2 * f.unit = (k + 1) * f.unit + f.unit := by ring
    have pos := f.unit_pos
    rw [overflow, step_mantissa (.inl le_rfl) (by omega), Nat.cast_succ, add_sub_right_comm,
      zpow_add_one₀ two_ne_zero]
    have positive : (0 : ℚ) < 2 ^ ((k : ℤ) - f.depth) := by positivity
    linarith

/-- Only below the first full mantissa of an exponent the words are closer. -/
theorem step_pred (full : f.unit ≤ m ∨ k = 0) (small : m ≤ 2 * f.unit)
    (pos : k * f.unit + m ≠ 0) (inner : ¬ (m = f.unit ∧ k ≠ 0)) :
    f.step (k * f.unit + m - 1) = 2 ^ ((k : ℤ) - f.depth) := by
  have unit := f.unit_pos
  have before : k * f.unit + m - 1 = k * f.unit + (m - 1) := by
    rcases full with full | rfl
    · omega
    · omega
  rw [before]
  exact step_mantissa (by omega) (by omega)

/-- The words end twice as close below that first mantissa. -/
theorem step_first (pos : k ≠ 0) : f.step (k * f.unit + f.unit - 1) = 2 ^ ((k : ℤ) - f.depth) / 2 := by
  have unit := f.unit_pos
  obtain ⟨k, rfl⟩ := Nat.exists_eq_succ_of_ne_zero pos
  have before : (k + 1) * f.unit + f.unit - 1 = k * f.unit + (2 * f.unit - 1) := by
    rw [Nat.succ_mul]
    omega
  rw [before, step_mantissa (.inl (by omega)) (by omega), Nat.cast_succ, add_sub_right_comm,
    zpow_add_one₀ two_ne_zero]
  ring

/-- A mantissa that is nearest on the grid of its exponent is nearest at all. -/
theorem roundsTo_mantissa (precise : 2 ≤ f.precision)
    (low : (m - 1 / 2) * 2 ^ ((k : ℤ) - f.depth) ≤ v) (high : v ≤ (m + 1 / 2) * 2 ^ ((k : ℤ) - f.depth))
    (tie : v = (m - 1 / 2) * 2 ^ ((k : ℤ) - f.depth) ∨ v = (m + 1 / 2) * 2 ^ ((k : ℤ) - f.depth) →
      m % 2 = 0)
    (full : f.unit * 2 ^ ((k : ℤ) - f.depth) ≤ v ∨ k = 0) (small : m ≤ 2 * f.unit) :
    f.RoundsTo v (k * f.unit + m) := by
  have positive : (0 : ℚ) < 2 ^ ((k : ℤ) - f.depth) := by positivity
  have digits : f.unit ≤ m ∨ k = 0 := full.imp_left fun full => by
    have bound : (f.unit : ℚ) ≤ m + 1 / 2 := le_of_mul_le_mul_right (full.trans high) positive
    have strict : (f.unit : ℚ) < (m + 1 : ℕ) := by
      push_cast
      linarith
    exact Nat.lt_succ_iff.mp (Nat.cast_lt.mp strict)
  have value := value_mantissa_le digits small
  have above := le_step digits small
  have below (pos : k * f.unit + m ≠ 0) : f.midpoint (k * f.unit + m - 1) ≤ v ∧
      (v = f.midpoint (k * f.unit + m - 1) → v = (m - 1 / 2) * 2 ^ ((k : ℤ) - f.depth)) := by
    by_cases first : m = f.unit ∧ k ≠ 0
    · -- The words are closer below this one, but the value is not below it.
      have least : f.unit * 2 ^ ((k : ℤ) - f.depth) ≤ v := full.resolve_right first.2
      have less : f.midpoint (k * f.unit + m - 1) < v := by
        have step := f.step_pos (k * f.unit + m - 1)
        rw [← first.1] at least
        rw [f.midpoint_pred pos, value]
        linarith
      exact ⟨less.le, fun same => absurd same less.ne'⟩
    · have same : f.midpoint (k * f.unit + m - 1) = (m - 1 / 2) * 2 ^ ((k : ℤ) - f.depth) := by
        rw [f.midpoint_pred pos, value, step_pred digits small pos first]
        ring
      rw [same]
      exact ⟨low, id⟩
  refine ⟨fun pos => (below pos).1, ?_, fun ends => ?_⟩
  · rw [midpoint, value]
    linarith
  · rw [word_mod_two precise]
    refine tie (ends.imp (fun ⟨pos, same⟩ => (below pos).2 same) fun same => ?_)
    rw [midpoint, value] at same
    linarith

end Nearest

theorem roundsTo_zero : f.RoundsTo 0 0 := by
  have above : 0 ≤ f.midpoint 0 := by
    rw [midpoint, value, if_pos f.unit_pos, Nat.cast_zero, zero_mul, zero_add]
    exact (half_pos (f.step_pos 0)).le
  exact ⟨absurd rfl, above, fun _ => rfl⟩

/-- The word of a quotient is the one to which its value is rounded. -/
theorem roundsTo_word (precise : 2 ≤ f.precision) {q : Quotient} (den : 0 < q.den) :
    f.RoundsTo q.value (f.word q) := by
  by_cases num : q.num = 0
  · rw [word, if_pos num, Quotient.value, num, Nat.cast_zero, zero_div]
    exact f.roundsTo_zero
  obtain ⟨logLow, logHigh⟩ := Quotient.log2_spec num den
  obtain ⟨k, exponent⟩ : ∃ k : ℕ, max (q.log2 - (f.precision - 1 : ℕ)) (-(f.depth : ℤ)) = k - f.depth :=
    ⟨(max (q.log2 - (f.precision - 1 : ℕ)) (-(f.depth : ℤ)) + f.depth).toNat, by omega⟩
  have positive : (0 : ℚ) < 2 ^ ((k : ℤ) - f.depth) := by positivity
  have scaledDen := Quotient.den_scale_pos two_pos den (-((k : ℤ) - f.depth))
  have scaled : (q.scale 2 (-((k : ℤ) - f.depth))).value * 2 ^ ((k : ℤ) - f.depth) = q.value := by
    rw [Quotient.value_scale two_pos, Nat.cast_ofNat, mul_assoc, ← zpow_add₀ two_ne_zero, neg_add_cancel,
      zpow_zero, mul_one]
  have unit : (f.unit : ℚ) = 2 ^ ((f.precision - 1 : ℕ) : ℤ) := by
    rw [Format.unit, Nat.pow_eq, Nat.cast_pow, Nat.cast_ofNat, zpow_natCast]
  obtain ⟨low, high, tie⟩ := Quotient.nearest_spec scaledDen
  unfold word
  dsimp only
  rw [if_neg num, exponent, Int.sub_add_cancel, Int.toNat_natCast]
  refine roundsTo_mantissa precise ?_ ?_ ?_ ?_ ?_
  · rw [← scaled]
    exact mul_le_mul_of_nonneg_right low positive.le
  · rw [← scaled]
    exact mul_le_mul_of_nonneg_right high positive.le
  · rw [← scaled, mul_left_inj' positive.ne', mul_left_inj' positive.ne']
    exact tie
  · by_cases least : k = 0
    · exact .inr least
    · refine .inl (le_trans ?_ logLow)
      rw [unit, ← zpow_add₀ two_ne_zero]
      exact zpow_le_zpow_right₀ one_le_two (by omega)
  · refine Quotient.nearest_le ((Quotient.value_lt_iff scaledDen _).mp ?_)
    refine lt_of_mul_lt_mul_right (lt_of_lt_of_le (scaled ▸ logHigh) ?_) positive.le
    rw [Nat.cast_mul, unit, Nat.cast_ofNat, ← zpow_one_add₀ two_ne_zero, ← zpow_add₀ two_ne_zero]
    exact zpow_le_zpow_right₀ one_le_two (by omega)

theorem word_eq_of_roundsTo (precise : 2 ≤ f.precision) {q : Quotient} (den : 0 < q.den) {w : ℕ}
    (rounds : f.RoundsTo q.value w) : f.word q = w :=
  (f.roundsTo_word precise den).unique rounds

/-- The values that are rounded to one word are not few in comparison with it. -/
theorem value_lt_width {w : ℕ} (pos : w ≠ 0) :
    f.value w < 2 * f.unit * (f.midpoint w - f.midpoint (w - 1)) := by
  obtain ⟨k, m, rfl, full, small⟩ := f.exists_mantissa w
  have unit : (0 : ℚ) < f.unit := Nat.cast_pos.mpr f.unit_pos
  have positive : (0 : ℚ) < 2 ^ ((k : ℤ) - f.depth) := by positivity
  rw [f.midpoint_pred pos, midpoint, value_mantissa full small, step_mantissa full small]
  by_cases first : m = f.unit ∧ k ≠ 0
  · have step := mul_pos unit (f.step_pos (k * f.unit + m - 1))
    have value : (m : ℚ) * 2 ^ ((k : ℤ) - f.depth) = f.unit * 2 ^ ((k : ℤ) - f.depth) := by rw [first.1]
    linarith
  · have less : (m : ℚ) < 2 * f.unit := by exact_mod_cast small
    have bound := mul_lt_mul_of_pos_right less positive
    rw [step_pred full small.le pos first]
    linarith

end Format

namespace Finite

variable {f : Format} (x : Finite f)

theorem exists_parts : ∃ k : ℕ, x.parts.2 = (k : ℤ) - f.depth ∧ x.magnitude = k * f.unit + x.parts.1 ∧
    (f.unit ≤ x.parts.1 ∨ k = 0) ∧ x.parts.1 < 2 * f.unit := by
  rcases x.normal_or_subnormal with small | ⟨k, m, word, low, high⟩
  · have pos := f.unit_pos
    rw [parts_subnormal small]
    exact ⟨0, by omega, by omega, .inr rfl, by dsimp only; omega⟩
  · rw [parts_normal word low high]
    exact ⟨k, rfl, word, .inl low, high⟩

theorem value_magnitude : f.value x.magnitude = x.parts.1 * 2 ^ x.parts.2 := by
  obtain ⟨k, exponent, word, full, small⟩ := x.exists_parts
  rw [word, Format.value_mantissa_le full small.le, exponent]

theorem value_exact : x.exact.value = f.value x.magnitude := by
  rw [exact, Quotient.value_scale two_pos, value_magnitude, Quotient.value, Nat.cast_one, div_one,
    Nat.cast_ofNat]

end Finite

end ScreenNavigation.Decimal
