import ScreenNavigation.Proofs.Decimal.Rounding

/-! Single precision taken from values that stand for a double. Every midpoint between two singles is itself a
double, so what is rounded to one double lies on the same side of it. -/
namespace ScreenNavigation.Decimal

namespace Format

/-- No other word stands for a value that is nearer. -/
theorem abs_sub_le {f : Format} {v : ℚ} {w : ℕ} (low : w ≠ 0 → f.midpoint (w - 1) ≤ v)
    (high : v ≤ f.midpoint w) (u : ℕ) : |v - f.value w| ≤ |v - f.value u| := by
  rcases lt_trichotomy u w with less | rfl | less
  · have pos : w ≠ 0 := by omega
    have middle := low pos
    have below := f.value_strictMono.monotone (Nat.le_sub_one_of_lt less)
    have between := f.value_strictMono (Nat.sub_one_lt pos)
    rw [f.midpoint_eq, Nat.sub_one_add_one pos] at middle
    exact (abs_le.mpr ⟨by linarith, by linarith⟩).trans (le_abs_self _)
  · exact le_rfl
  · have above := f.value_strictMono.monotone (Nat.succ_le_of_lt less)
    have between := f.value_strictMono (Nat.lt_succ_self w)
    rw [f.midpoint_eq] at high
    exact (abs_le.mpr ⟨by linarith, by linarith⟩).trans (neg_le_abs _)

end Format

/-- No number of the format is nearer to the value; infinity stands for what is beyond all midpoints. -/
def Extended.IsNearest {f : Format} (negative : Bool) (v : ℚ) : Extended f → Prop
  | .finite y => y.negative = negative ∧ ∀ z : Finite f, |v - y.exact.value| ≤ |v - z.exact.value|
  | .infinite sign => sign = negative ∧ f.midpoint (f.infinity - 1) ≤ v
  | .nan => False

section Apart

variable {x : Double} {v : ℚ}

/-- The values that are rounded to a double are at most half of its last place away. -/
private theorem near_of_roundsTo (nonneg : 0 ≤ v) (rounds : Format.double.RoundsTo v x.magnitude) :
    (x.parts.1 - 1 / 2) * 2 ^ x.parts.2 ≤ v ∧ v ≤ (x.parts.1 + 1 / 2) * 2 ^ x.parts.2 := by
  obtain ⟨k, exponent, word, full, small⟩ := x.exists_parts
  have positive : (0 : ℚ) < 2 ^ x.parts.2 := by positivity
  have low := rounds.low
  have high := rounds.high
  rw [word, Format.midpoint, Format.value_mantissa full small, Format.step_mantissa full small,
    ← exponent] at high
  refine ⟨?_, by linarith⟩
  by_cases zero : x.magnitude = 0
  · rw [x.mantissa_eq_zero_iff.mpr zero, Nat.cast_zero]
    linarith
  · have middle := low zero
    rw [word] at zero middle
    rw [Format.midpoint_pred _ zero, Format.value_mantissa full small, ← exponent] at middle
    by_cases first : x.parts.1 = Format.double.unit ∧ k ≠ 0
    · have step : Format.double.step (k * Format.double.unit + x.parts.1 - 1) = 2 ^ x.parts.2 / 2 := by
        rw [first.1, Format.step_first first.2, exponent]
      rw [step] at middle
      linarith
    · rw [Format.step_pred full small.le zero first, ← exponent] at middle
      linarith

private theorem exists_midpoint (u : ℕ) :
    ∃ (n : ℕ) (j : ℤ), Format.single.midpoint u = n * 2 ^ j ∧ n < 2 ^ 25 ∧ -150 ≤ j := by
  have depth : Format.single.depth = 149 := by decide
  have unit : Format.single.unit = 2 ^ 23 := rfl
  obtain ⟨k, m, rfl, full, small⟩ := Format.single.exists_mantissa u
  refine ⟨2 * m + 1, (k : ℤ) - 149 - 1, ?_, by omega, by omega⟩
  rw [Format.midpoint, Format.value_mantissa full small, Format.step_mantissa full small, depth,
    zpow_sub_one₀ two_ne_zero]
  push_cast
  ring

/-- On the grid of the double a midpoint is a whole number, or it is below all full mantissas. -/
private theorem midpoint_apart (nonneg : 0 ≤ v) (rounds : Format.double.RoundsTo v x.magnitude) (u : ℕ) :
    (Format.single.midpoint u < x.exact.value → Format.single.midpoint u < v) ∧
      (x.exact.value < Format.single.midpoint u → v < Format.single.midpoint u) := by
  obtain ⟨low, high⟩ := near_of_roundsTo nonneg rounds
  obtain ⟨k, exponent, word, full, small⟩ := x.exists_parts
  obtain ⟨n, j, middle, few, least⟩ := exists_midpoint u
  have depth : Format.double.depth = 1074 := by decide
  have positive : (0 : ℚ) < 2 ^ x.parts.2 := by positivity
  rw [x.value_exact, x.value_magnitude, middle]
  generalize x.parts = parts at *
  obtain ⟨m, e⟩ := parts
  dsimp only at *
  by_cases fine : e ≤ j
  · obtain ⟨i, rfl⟩ : ∃ i : ℕ, j = e + i := ⟨(j - e).toNat, by omega⟩
    have whole : (n : ℚ) * 2 ^ (e + i) = (n * 2 ^ i : ℕ) * 2 ^ e := by
      rw [zpow_add₀ two_ne_zero, zpow_natCast, Nat.cast_mul, Nat.cast_pow, Nat.cast_ofNat]
      ring
    rw [whole]
    refine ⟨fun less => ?_, fun less => ?_⟩
    · have before : n * 2 ^ i + 1 ≤ m := Nat.cast_lt.mp (lt_of_mul_lt_mul_right less positive.le)
      have bound : ((n * 2 ^ i : ℕ) : ℚ) + 1 ≤ m := by exact_mod_cast before
      refine lt_of_lt_of_le (mul_lt_mul_of_pos_right ?_ positive) low
      linarith
    · have behind : m + 1 ≤ n * 2 ^ i := Nat.cast_lt.mp (lt_of_mul_lt_mul_right less positive.le)
      have bound : (m : ℚ) + 1 ≤ (n * 2 ^ i : ℕ) := by exact_mod_cast behind
      refine lt_of_le_of_lt high (mul_lt_mul_of_pos_right ?_ positive)
      linarith
  · have digits : 2 ^ 52 ≤ m := full.resolve_right (by omega)
    have digits' : (2 : ℚ) ^ 52 ≤ m := by exact_mod_cast digits
    have tiny : (n : ℚ) * 2 ^ j < 2 ^ 25 * 2 ^ e :=
      calc (n : ℚ) * 2 ^ j
        _ < 2 ^ 25 * 2 ^ j := mul_lt_mul_of_pos_right (by exact_mod_cast few) (by positivity)
        _ ≤ 2 ^ 25 * 2 ^ e :=
          mul_le_mul_of_nonneg_left (zpow_le_zpow_right₀ one_le_two (by omega)) (by positivity)
    have far : (2 : ℚ) ^ 25 * 2 ^ e ≤ (m - 1 / 2) * 2 ^ e :=
      mul_le_mul_of_nonneg_right (by linarith) positive.le
    refine ⟨fun _ => by linarith, fun less => ?_⟩
    linarith

end Apart

/-- What is rounded to a double becomes a single that is nearest to this double. -/
theorem Double.isNearest_single {x : Double} {q : Quotient} (den : 0 < q.den)
    (rounds : Format.double.RoundsTo q.value x.magnitude) (negative : Bool) :
    (Format.single.round negative q).IsNearest negative x.exact.value := by
  have nonneg : 0 ≤ q.value := by rw [Quotient.value]; positivity
  have apart := midpoint_apart nonneg rounds
  generalize x.exact.value = v at *
  obtain ⟨low, high, -⟩ := Format.single.roundsTo_word (by decide) den
  rw [Format.round]
  split
  · refine ⟨rfl, fun z => ?_⟩
    rw [Finite.value_exact, Finite.value_exact]
    refine Format.abs_sub_le (fun pos => ?_) ?_ _
    · exact not_lt.mp fun less => (low pos).not_gt ((apart _).2 less)
    · exact not_lt.mp fun less => high.not_gt ((apart _).1 less)
  · rename_i large
    refine ⟨rfl, not_lt.mp fun less => ?_⟩
    have last : Format.single.midpoint (Format.single.infinity - 1) ≤
        Format.single.midpoint (Format.single.word q - 1) :=
      Format.single.midpoint_strictMono.monotone (Nat.sub_le_sub_right (Nat.not_lt.mp large) 1)
    have pos : Format.single.word q ≠ 0 := by
      have infinite : 0 < Format.single.infinity := by decide
      omega
    exact (last.trans (low pos)).not_gt ((apart _).2 less)

end ScreenNavigation.Decimal
