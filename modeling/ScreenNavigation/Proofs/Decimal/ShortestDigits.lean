import Mathlib.Data.Nat.Cast.Order.Field
import ScreenNavigation.Decimal.Shortest
import ScreenNavigation.Proofs.Decimal.Rounding

/-! The decimal digits of a number lie where everything is rounded to that number. One of seventeen grids
always has a point there, and without its trailing zeros it is still the same decimal. -/
namespace ScreenNavigation.Decimal

namespace Digits

def quotient (d : Digits) : Quotient := (Quotient.mk d.digits 1).scale 10 d.exponent

theorem value_quotient (d : Digits) : d.quotient.value = d.digits * 10 ^ d.exponent := by
  rw [quotient, Quotient.value_scale (by decide), Quotient.value, Nat.cast_one, div_one, Nat.cast_ofNat]

private theorem value_dropZeros (fuel : ℕ) (d : Digits) :
    (d.dropZeros fuel).quotient.value = d.quotient.value := by
  induction fuel generalizing d with
  | zero => rfl
  | succ fuel ih =>
    rw [dropZeros]
    split
    · rename_i last
      have ten : d.digits = d.digits / 10 * 10 := by omega
      have digits : (d.digits : ℚ) = (d.digits / 10 : ℕ) * 10 := by exact_mod_cast ten
      rw [ih, value_quotient, value_quotient, digits]
      dsimp only
      rw [zpow_add_one₀ (by norm_num)]
      ring
    · rfl

theorem value_trim (d : Digits) : d.trim.quotient.value = d.quotient.value := value_dropZeros _ d

end Digits

namespace Interval

/-- The bounds are on two sides of the value. -/
structure IsProper (i : Interval) : Prop where
  den : 0 < i.den
  low : i.low < i.value
  high : i.value < i.high

/-- The value reads back; the bounds do so when they belong to the interval. -/
structure Contains (i : Interval) (v : ℚ) : Prop where
  low : (i.low : ℚ) / i.den ≤ v
  high : v ≤ (i.high : ℚ) / i.den
  closed : v = (i.low : ℚ) / i.den ∨ v = (i.high : ℚ) / i.den → i.closed = true

variable {i : Interval}

section Grid

variable (e : ℤ)

private theorem grid_mul (i : Interval) (d : ℕ) :
    (d : ℚ) * 10 ^ e * i.den * (Nat.pow 10 (-e).toNat : ℕ) =
      (d * (i.den * Nat.pow 10 e.toNat) : ℕ) := by
  rw [Nat.cast_mul, Nat.cast_mul, ← Quotient.zpow_mul_pow (by decide) e, Nat.cast_ofNat,
    mul_right_comm _ _ (i.den : ℚ), mul_assoc, mul_assoc]

private theorem bound_le_grid (proper : i.IsProper) (n d : ℕ) : (n : ℚ) / i.den ≤ d * 10 ^ e ↔
    n * Nat.pow 10 (-e).toNat ≤ d * (i.den * Nat.pow 10 e.toNat) := by
  have positive : (0 : ℚ) < (Nat.pow 10 (-e).toNat : ℕ) := Nat.cast_pos.mpr (Nat.pow_pos (by decide))
  rw [div_le_iff₀ (Nat.cast_pos.mpr proper.den), ← mul_le_mul_iff_of_pos_right positive, grid_mul,
    ← Nat.cast_mul, Nat.cast_le]

private theorem grid_le_bound (proper : i.IsProper) (n d : ℕ) : d * 10 ^ e ≤ (n : ℚ) / i.den ↔
    d * (i.den * Nat.pow 10 e.toNat) ≤ n * Nat.pow 10 (-e).toNat := by
  have positive : (0 : ℚ) < (Nat.pow 10 (-e).toNat : ℕ) := Nat.cast_pos.mpr (Nat.pow_pos (by decide))
  rw [le_div_iff₀ (Nat.cast_pos.mpr proper.den), ← mul_le_mul_iff_of_pos_right positive, grid_mul,
    ← Nat.cast_mul, Nat.cast_le]

private theorem contains_of_grid (proper : i.IsProper) {d : ℕ}
    (low : i.low * Nat.pow 10 (-e).toNat ≤ d * (i.den * Nat.pow 10 e.toNat))
    (high : d * (i.den * Nat.pow 10 e.toNat) ≤ i.high * Nat.pow 10 (-e).toNat)
    (inside : i.closed = true ∨ i.low * Nat.pow 10 (-e).toNat < d * (i.den * Nat.pow 10 e.toNat) ∧
      d * (i.den * Nat.pow 10 e.toNat) < i.high * Nat.pow 10 (-e).toNat) :
    i.Contains (d * 10 ^ e) where
  low := (bound_le_grid e proper _ _).mpr low
  high := (grid_le_bound e proper _ _).mpr high
  closed ends := inside.resolve_right fun ⟨above, below⟩ => ends.elim
    (fun same => Nat.not_le.mpr above ((grid_le_bound e proper _ _).mp same.le))
    (fun same => Nat.not_le.mpr below ((bound_le_grid e proper _ _).mp same.ge))

theorem contains_onGrid (proper : i.IsProper) {tie : Tie} {d : ℕ} (found : i.onGrid tie e = some d) :
    i.Contains (d * 10 ^ e) := by
  have fine : 0 < Nat.pow 10 (-e).toNat := Nat.pow_pos (by decide)
  have coarse : 0 < i.den * Nat.pow 10 e.toNat := Nat.mul_pos proper.den (Nat.pow_pos (by decide))
  have low := Nat.mul_lt_mul_of_pos_right proper.low fine
  have high := Nat.mul_lt_mul_of_pos_right proper.high fine
  have below := Nat.div_mul_le_self (i.value * Nat.pow 10 (-e).toNat) (i.den * Nat.pow 10 e.toNat)
  have above := Nat.lt_mul_div_succ (i.value * Nat.pow 10 (-e).toNat) coarse
  rw [Nat.mul_comm (_ * _)] at above
  have contains {c : ℕ} := contains_of_grid (i := i) e proper (d := c)
  unfold onGrid at found
  dsimp only at found
  generalize Nat.pow 10 (-e).toNat = a at *
  generalize i.den * Nat.pow 10 e.toNat = b at *
  generalize i.value * a / b = c at *
  have lower (fits : if i.closed then i.low * a ≤ c * b else i.low * a < c * b) :
      i.Contains (c * 10 ^ e) := by
    cases closed : i.closed <;> rw [closed] at fits
    · exact contains fits.le (by omega) (.inr ⟨fits, by omega⟩)
    · exact contains fits (by omega) (.inl closed)
  have upper (fits : if i.closed then (c + 1) * b ≤ i.high * a else (c + 1) * b < i.high * a) :
      i.Contains ((c + 1 : ℕ) * 10 ^ e) := by
    cases closed : i.closed <;> rw [closed] at fits
    · exact contains (by omega) fits.le (.inr ⟨by omega, fits⟩)
    · exact contains (by omega) fits (.inl closed)
  by_cases low : if i.closed then i.low * a ≤ c * b else i.low * a < c * b
  · by_cases high : if i.closed then (c + 1) * b ≤ i.high * a else (c + 1) * b < i.high * a
    · rw [if_pos ⟨low, high⟩] at found
      cases found
      split
      · exact lower low
      · exact upper high
    · rw [if_neg fun both => high both.2, if_pos low] at found
      cases found
      exact lower low
  · by_cases high : if i.closed then (c + 1) * b ≤ i.high * a else (c + 1) * b < i.high * a
    · rw [if_neg fun both => low both.1, if_neg low, if_pos high] at found
      cases found
      exact upper high
    · rw [if_neg fun both => low both.1, if_neg low, if_neg high] at found
      cases found

/-- A grid that is finer than the interval has a point in it. -/
theorem onGrid_ne_none (proper : i.IsProper) (tie : Tie)
    (fine : (10 : ℚ) ^ e < (i.high : ℚ) / i.den - (i.low : ℚ) / i.den) : i.onGrid tie e ≠ none := by
  have den : (0 : ℚ) < i.den := Nat.cast_pos.mpr proper.den
  have positive : (0 : ℚ) < (Nat.pow 10 (-e).toNat : ℕ) := Nat.cast_pos.mpr (Nat.pow_pos (by decide))
  have width : i.low * Nat.pow 10 (-e).toNat + i.den * Nat.pow 10 e.toNat <
      i.high * Nat.pow 10 (-e).toNat := by
    rw [← sub_div, lt_div_iff₀ den] at fine
    have scaled := mul_lt_mul_of_pos_right fine positive
    have one := grid_mul e i 1
    rw [Nat.one_mul, Nat.cast_one, one_mul] at one
    rw [one] at scaled
    have cast : ((i.low * Nat.pow 10 (-e).toNat + i.den * Nat.pow 10 e.toNat : ℕ) : ℚ) <
        (i.high * Nat.pow 10 (-e).toNat : ℕ) := by
      push_cast at scaled ⊢
      linarith
    exact Nat.cast_lt.mp cast
  unfold onGrid
  dsimp only
  generalize Nat.pow 10 (-e).toNat = a at *
  generalize i.den * Nat.pow 10 e.toNat = b at *
  generalize i.value * a / b = c at *
  have next : (c + 1) * b = c * b + b := Nat.succ_mul c b
  by_cases low : if i.closed then i.low * a ≤ c * b else i.low * a < c * b
  · by_cases high : if i.closed then (c + 1) * b ≤ i.high * a else (c + 1) * b < i.high * a
    · rw [if_pos ⟨low, high⟩]
      exact nofun
    · rw [if_neg fun both => high both.2, if_pos low]
      exact nofun
  · have high : if i.closed then (c + 1) * b ≤ i.high * a else (c + 1) * b < i.high * a := by
      cases closed : i.closed <;> rw [closed] at low
      · have low' : ¬ i.low * a < c * b := low
        exact (by omega : (c + 1) * b < i.high * a)
      · have low' : ¬ i.low * a ≤ c * b := low
        exact (by omega : (c + 1) * b ≤ i.high * a)
    rw [if_neg fun both => low both.1, if_neg low, if_pos high]
    exact nofun

end Grid

section Search

variable (tie : Tie)

theorem contains_search (proper : i.IsProper) {e : ℤ} {fuel j : ℕ} (inside : j < fuel)
    (found : i.onGrid tie (e - j) ≠ none) :
    i.Contains (i.search tie e fuel).quotient.value := by
  induction fuel generalizing e j with
  | zero => exact absurd inside (Nat.not_lt_zero j)
  | succ fuel ih =>
    rw [search]
    split
    · rename_i d here
      rw [Digits.value_quotient]
      exact contains_onGrid e proper here
    · rename_i none
      cases j with
      | zero => exact absurd (by rwa [Nat.cast_zero, sub_zero]) found
      | succ j =>
        refine ih (j := j) (Nat.lt_of_succ_lt_succ inside) ?_
        rwa [sub_sub, add_comm, ← Nat.cast_succ]

private theorem pow_length_le {n : ℕ} (pos : n ≠ 0) (fuel : ℕ) : 10 ^ length n fuel ≤ 10 * n := by
  induction fuel generalizing n with
  | zero =>
    rw [length, Nat.pow_zero]
    omega
  | succ fuel ih =>
    rw [length, if_neg pos, Nat.pow_succ]
    by_cases last : n / 10 = 0
    · have none : length (n / 10) fuel = 0 := by
        cases fuel with
        | zero => rfl
        | succ fuel => rw [length, if_pos last]
      rw [none, Nat.pow_zero]
      omega
    · have bound := ih last
      omega

private theorem le_mul_pow_leadingZeros {num den fuel : ℕ} (enough : den ≤ num * 10 ^ fuel) :
    den ≤ num * 10 ^ leadingZeros num den fuel := by
  induction fuel generalizing num with
  | zero => exact enough
  | succ fuel ih =>
    rw [leadingZeros]
    split
    · rename_i here
      rwa [Nat.pow_zero, Nat.mul_one]
    · rw [Nat.pow_succ', ← Nat.mul_assoc] at enough ⊢
      exact ih enough

/-- The value has no fewer digits than `point` says. -/
theorem pow_point_le (proper : i.IsProper) : (10 : ℚ) ^ (i.point - 1) ≤ i.value / i.den := by
  have den : (0 : ℚ) < i.den := Nat.cast_pos.mpr proper.den
  rw [point]
  split
  · rename_i whole
    have pos : i.value / i.den ≠ 0 := (Nat.div_pos whole proper.den).ne'
    have bound := pow_length_le pos (i.value.log2 + 1)
    have digits : (10 : ℚ) ^ length (i.value / i.den) (i.value.log2 + 1) ≤ 10 * (i.value / i.den : ℕ) := by
      exact_mod_cast bound
    rw [zpow_sub_one₀ (by norm_num), zpow_natCast, ← div_eq_mul_inv, div_le_iff₀' (by norm_num)]
    exact digits.trans (mul_le_mul_of_nonneg_left Nat.cast_div_le (by norm_num))
  · have one : 1 ≤ i.value := Nat.succ_le_of_lt (Nat.zero_lt_of_lt proper.low)
    have enough : i.den ≤ i.value * 10 ^ (i.den.log2 + 1) :=
      calc i.den
        _ ≤ 2 ^ (i.den.log2 + 1) := Nat.lt_log2_self.le
        _ ≤ 10 ^ (i.den.log2 + 1) := Nat.pow_le_pow_left (by decide) _
        _ ≤ i.value * 10 ^ (i.den.log2 + 1) := Nat.le_mul_of_pos_left _ one
    have bound := le_mul_pow_leadingZeros enough
    have zeros : (i.den : ℚ) ≤ i.value * 10 ^ leadingZeros i.value i.den (i.den.log2 + 1) := by
      exact_mod_cast bound
    rw [le_div_iff₀ den, sub_sub, add_comm, ← sub_sub, sub_self, zero_sub, zpow_neg, zpow_natCast,
      inv_mul_le_iff₀ (by positivity), mul_comm]
    exact zeros

/-- Where sixteen digits are finer than the interval, the shortest digits lie in it. -/
theorem contains_shortest (proper : i.IsProper)
    (wide : (i.value : ℚ) / i.den < 10 ^ 16 * ((i.high : ℚ) / i.den - (i.low : ℚ) / i.den)) :
    i.Contains (i.shortest tie).quotient.value := by
  refine contains_search tie proper (j := 16) (by decide) (onGrid_ne_none _ proper tie ?_)
  have point := i.pow_point_le proper
  have last : (10 : ℚ) ^ (i.point - 1) = 10 ^ 16 * 10 ^ (i.point - 1 - (16 : ℕ)) := by
    rw [← zpow_natCast, ← zpow_add₀ (by norm_num)]
    congr 1
    omega
  rw [last] at point
  exact lt_of_mul_lt_mul_left (lt_of_le_of_lt point wide) (by norm_num)

end Search

end Interval

namespace Finite

variable {f : Format} (x : Finite f)

/-- The interval of a number holds the values that are rounded to it. -/
theorem interval_spec (precise : 2 ≤ f.precision) (pos : x.magnitude ≠ 0) : x.interval.IsProper ∧
    (x.interval.value : ℚ) / x.interval.den = f.value x.magnitude ∧
    (x.interval.low : ℚ) / x.interval.den = f.midpoint (x.magnitude - 1) ∧
    (x.interval.high : ℚ) / x.interval.den = f.midpoint x.magnitude ∧
    (x.interval.closed = true ↔ x.magnitude % 2 = 0) := by
  have mantissa := mt x.mantissa_eq_zero_iff.mp pos
  obtain ⟨k, exponent, word, full, small⟩ := x.exists_parts
  unfold interval
  generalize x.parts = parts at *
  obtain ⟨m, e⟩ := parts
  dsimp only at *
  rw [word, f.midpoint_pred (word ▸ pos), Format.midpoint, Format.value_mantissa full small,
    Format.step_mantissa full small, Format.word_mod_two precise, ← exponent]
  have up : 0 < Nat.pow 2 e.toNat := Nat.pow_pos two_pos
  have down : 0 < Nat.pow 2 (-e).toNat := Nat.pow_pos two_pos
  have scaled (n : ℕ) :
      ((n * Nat.pow 2 e.toNat : ℕ) : ℚ) / (4 * Nat.pow 2 (-e).toNat : ℕ) = n / 4 * 2 ^ e := by
    have down' : ((Nat.pow 2 (-e).toNat : ℕ) : ℚ) ≠ 0 := Nat.cast_ne_zero.mpr down.ne'
    rw [Nat.cast_mul, Nat.cast_mul, ← Quotient.zpow_mul_pow two_pos, Nat.cast_ofNat, Nat.cast_ofNat]
    field_simp
  refine ⟨⟨?_, ?_, ?_⟩, ?_, ?_, ?_, ?_⟩
  · exact Nat.mul_pos (by decide) down
  · exact Nat.mul_lt_mul_of_pos_right (by split <;> omega) up
  · exact Nat.mul_lt_mul_of_pos_right (by omega) up
  · rw [scaled, Nat.cast_mul]
    ring
  · rw [scaled]
    by_cases first : m = f.unit ∧ k ≠ 0
    · have room : f.unit ≤ k * f.unit + m - f.unit := by
        have units := Nat.le_mul_of_pos_left f.unit (Nat.pos_of_ne_zero first.2)
        omega
      rw [if_pos ⟨first.1, room⟩, Nat.cast_sub (by omega), first.1, Format.step_first first.2, ← exponent]
      push_cast
      ring
    · have none : ¬ (m = f.unit ∧ f.unit ≤ k * f.unit + m - f.unit) := by
        rintro ⟨rfl, room⟩
        refine first ⟨rfl, ?_⟩
        rintro rfl
        have unit := f.unit_pos
        omega
      rw [if_neg none, Nat.cast_sub (by omega), Format.step_pred full small.le (word ▸ pos) first, ← exponent]
      push_cast
      ring
  · rw [scaled]
    push_cast
    ring
  · exact decide_eq_true_iff

/-- The digits of a number are rounded to it, whichever way a tie between two decimals goes. -/
theorem roundsTo_digits (precise : 2 ≤ f.precision) (few : 2 * f.unit ≤ 10 ^ 16) (tie : Tie) :
    f.RoundsTo (x.digits tie).quotient.value x.magnitude := by
  rw [digits, isZero]
  split
  · rename_i zero
    rw [beq_iff_eq.mp zero, Digits.value_quotient, Nat.cast_zero, zero_mul]
    exact f.roundsTo_zero
  · rename_i other
    have pos : x.magnitude ≠ 0 := mt beq_iff_eq.mpr other
    obtain ⟨proper, value, low, high, closed⟩ := x.interval_spec precise pos
    have less : x.magnitude - 1 < x.magnitude := Nat.sub_one_lt pos
    have width : 0 ≤ f.midpoint x.magnitude - f.midpoint (x.magnitude - 1) :=
      sub_nonneg.mpr (f.midpoint_strictMono less).le
    have few' : (2 : ℚ) * f.unit ≤ 10 ^ 16 := by exact_mod_cast few
    have inside := Interval.contains_shortest tie proper <| by
      rw [value, low, high]
      exact lt_of_lt_of_le (f.value_lt_width pos) (mul_le_mul_of_nonneg_right few' width)
    rw [Digits.value_trim]
    refine ⟨fun _ => low ▸ inside.low, high ▸ inside.high, fun ends => closed.mp (inside.closed ?_)⟩
    rw [low, high]
    exact ends.imp_left And.right

end Finite

end ScreenNavigation.Decimal
