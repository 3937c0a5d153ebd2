import Mathlib.Algebra.Group.Nat.Defs
import Mathlib.Data.Nat.Log
import ScreenNavigation.Decimal.Binary

/-! Numbers of single precision as numbers of double precision. Widening is exact, so a number that is
narrowed again has the word it had before. -/
namespace ScreenNavigation.Decimal

private theorem log2_mul_two_pow {m : Nat} (pos : m ≠ 0) (i : Nat) :
    (m * 2 ^ i).log2 = m.log2 + i := by
  have positive : m * 2 ^ i ≠ 0 := Nat.mul_ne_zero pos (Nat.two_pow_pos i).ne'
  refine (Nat.log2_eq_iff positive).mpr ⟨?_, ?_⟩
  · rw [Nat.pow_add]
    exact Nat.mul_le_mul_right _ (Nat.log2_self_le pos)
  · rw [Nat.add_right_comm, Nat.pow_add]
    exact Nat.mul_lt_mul_of_pos_right Nat.lt_log2_self (Nat.two_pow_pos i)

namespace Quotient

/-- A whole number times a power of two, whose exponent is a difference. -/
def ofPowers (m i j : Nat) : Quotient := ⟨m * 2 ^ i, 2 ^ j⟩

theorem scale_ofPowers (m i j : Nat) (d : Int) :
    ∃ i' j' : Nat, (i' : Int) - j' = (i : Int) - j + d ∧
      (ofPowers m i j).scale 2 d = ofPowers m i' j' := by
  unfold scale
  split
  · refine ⟨i + d.toNat, j, by omega, ?_⟩
    rw [ofPowers, ofPowers, Nat.pow_eq, Nat.mul_assoc, ← Nat.pow_add]
  · refine ⟨i, j + (-d).toNat, by omega, ?_⟩
    rw [ofPowers, ofPowers, Nat.pow_eq, ← Nat.pow_add]

theorem log2_ofPowers {m : Nat} (pos : m ≠ 0) (i j : Nat) :
    (ofPowers m i j).log2 = (m.log2 : Int) + i - j := by
  have num : (ofPowers m i j).num.log2 = m.log2 + i := log2_mul_two_pow pos i
  have den : (ofPowers m i j).den.log2 = j := Nat.log2_two_pow
  obtain ⟨i', j', shift, scaled⟩ := scale_ofPowers m i j (-((m.log2 + i : Nat) - (j : Int)))
  have depth : j' = m.log2 + i' := by omega
  have kept : ¬ (ofPowers m i' j').num < (ofPowers m i' j').den := by
    have low : 2 ^ m.log2 * 2 ^ i' ≤ m * 2 ^ i' := Nat.mul_le_mul_right _ (Nat.log2_self_le pos)
    rw [← Nat.pow_add, ← depth] at low
    exact Nat.not_lt.mpr low
  unfold log2
  dsimp only
  rw [num, den, scaled, if_neg kept]
  omega

theorem nearest_of_eq {q : Quotient} {k : Nat} (pos : 0 < q.den) (h : q.num = k * q.den) :
    q.nearest = k := by
  have whole : q.num / q.den = k := h ▸ Nat.mul_div_cancel k pos
  have rest : q.num % q.den = 0 := h ▸ Nat.mul_mod_left k q.den
  unfold nearest
  dsimp only
  rw [whole, rest, if_neg (by omega)]

end Quotient

namespace Format

/-- A number that is a whole multiple of the last place of its binary exponent is not rounded. -/
theorem word_ofPowers (f : Format) {m i j k a b : Nat} {e : Int} (pos : m ≠ 0)
    (exponent : max ((m.log2 : Int) + i - j - (f.precision - 1 : Nat)) (-(f.depth : Int)) = e)
    (shift : (i : Int) - j - e = a - b) (same : m * 2 ^ a = k * 2 ^ b) :
    f.word (.ofPowers m i j) = (e + f.depth).toNat * f.unit + k := by
  obtain ⟨i', j', shift', scaled⟩ := Quotient.scale_ofPowers m i j (-e)
  have whole : m * 2 ^ i' = k * 2 ^ j' := by
    have exponents : i' + b = a + j' := by omega
    refine Nat.eq_of_mul_eq_mul_right (Nat.two_pow_pos b) ?_
    calc m * 2 ^ i' * 2 ^ b
      _ = m * 2 ^ a * 2 ^ j' := by rw [Nat.mul_assoc, ← Nat.pow_add, exponents, Nat.pow_add, Nat.mul_assoc]
      _ = k * 2 ^ j' * 2 ^ b := by rw [same, Nat.mul_right_comm]
  have nearest : (Quotient.ofPowers m i' j').nearest = k :=
    Quotient.nearest_of_eq (Nat.two_pow_pos j') whole
  have positive : (Quotient.ofPowers m i j).num ≠ 0 :=
    Nat.mul_ne_zero pos (Nat.two_pow_pos i).ne'
  unfold word
  dsimp only
  rw [if_neg positive, Quotient.log2_ofPowers pos, exponent, scaled, nearest]

/-- A value is rounded to the number that has its word. -/
theorem round_eq {f : Format} {negative : Bool} {q : Quotient} {y : Finite f} (sign : y.negative = negative)
    (word : f.word q = y.magnitude) : f.round negative q = .finite y := by
  obtain ⟨_, _, isLt⟩ := y
  subst sign word
  exact dif_pos isLt

end Format

namespace Finite

variable {f : Format}

private theorem unit_pos (f : Format) : 0 < f.unit := Nat.two_pow_pos _

private theorem parts_of_word {x : Finite f} {field fraction : Nat} (small : fraction < f.unit)
    (word : x.magnitude = field * f.unit + fraction) :
    x.parts = if field = 0 then (fraction, -(f.depth : Int))
      else (f.unit + fraction, (field : Int) - 1 - f.depth) := by
  have whole : x.magnitude / f.unit = field := by
    rw [word, Nat.mul_comm, Nat.mul_add_div (unit_pos f), Nat.div_eq_of_lt small, Nat.add_zero]
  have rest : x.magnitude % f.unit = fraction := by
    rw [word, Nat.mul_comm, Nat.mul_add_mod, Nat.mod_eq_of_lt small]
  unfold parts
  rw [whole, rest]

theorem parts_subnormal {x : Finite f} (small : x.magnitude < f.unit) :
    x.parts = (x.magnitude, -(f.depth : Int)) :=
  parts_of_word small (by rw [Nat.zero_mul, Nat.zero_add])

theorem parts_normal {x : Finite f} {n k : Nat} (word : x.magnitude = n * f.unit + k)
    (low : f.unit ≤ k) (high : k < 2 * f.unit) : x.parts = (k, (n : Int) - f.depth) := by
  have split : x.magnitude = (n + 1) * f.unit + (k - f.unit) := by
    rw [Nat.succ_mul, Nat.add_assoc, Nat.add_sub_cancel' low, word]
  rw [parts_of_word (by omega) split, if_neg (Nat.succ_ne_zero n), Nat.add_sub_cancel' low]
  congr 1
  omega

/-- Below the unit a word is its own mantissa, above it the mantissa has all its digits. -/
theorem normal_or_subnormal (x : Finite f) : x.magnitude < f.unit ∨
    ∃ n k, x.magnitude = n * f.unit + k ∧ f.unit ≤ k ∧ k < 2 * f.unit := by
  by_cases small : x.magnitude < f.unit
  · exact .inl small
  · have rest := Nat.mod_lt x.magnitude (unit_pos f)
    have field : 0 < x.magnitude / f.unit := Nat.div_pos (Nat.not_lt.mp small) (unit_pos f)
    obtain ⟨n, whole⟩ := Nat.exists_eq_succ_of_ne_zero field.ne'
    refine .inr ⟨n, f.unit + x.magnitude % f.unit, ?_, Nat.le_add_right _ _, by omega⟩
    rw [← Nat.add_assoc, ← Nat.succ_mul, ← whole, Nat.div_add_mod']

/-- The mantissa and the exponent of a number make up its word. -/
theorem magnitude_parts (x : Finite f) :
    x.magnitude = (x.parts.2 + f.depth).toNat * f.unit + x.parts.1 := by
  rcases x.normal_or_subnormal with small | ⟨n, k, word, low, high⟩
  · rw [parts_subnormal small, Int.add_left_neg, Int.toNat_zero, Nat.zero_mul, Nat.zero_add]
  · rw [parts_normal word low high, Int.sub_add_cancel, Int.toNat_natCast, word]

theorem mantissa_lt (x : Finite f) : x.parts.1 < 2 * f.unit := by
  rcases x.normal_or_subnormal with small | ⟨n, k, word, low, high⟩
  · rw [parts_subnormal small]
    exact Nat.lt_of_lt_of_le small (Nat.le_mul_of_pos_left _ (by decide))
  · rw [parts_normal word low high]
    exact high

/-- The exponent of a number is the one to which its own value would be rounded. -/
theorem exponent_parts (x : Finite f) (pos : x.parts.1 ≠ 0) :
    max ((x.parts.1.log2 : Int) + x.parts.2 - (f.precision - 1 : Nat)) (-(f.depth : Int)) =
      x.parts.2 := by
  rcases x.normal_or_subnormal with small | ⟨n, k, word, low, high⟩
  · rw [parts_subnormal small] at pos ⊢
    have digits : x.magnitude.log2 < f.precision - 1 := (Nat.log2_lt pos).mpr small
    dsimp only
    omega
  · rw [parts_normal word low high] at pos ⊢
    have digits : k.log2 = f.precision - 1 := by
      refine (Nat.log2_eq_iff pos).mpr ⟨low, ?_⟩
      rw [Nat.pow_succ, Nat.mul_comm]
      exact high
    dsimp only
    omega

theorem exact_eq (x : Finite f) :
    ∃ i j : Nat, (i : Int) - j = x.parts.2 ∧ x.exact = .ofPowers x.parts.1 i j := by
  obtain ⟨i, j, shift, scaled⟩ := Quotient.scale_ofPowers x.parts.1 0 0 x.parts.2
  refine ⟨i, j, by omega, ?_⟩
  rw [exact, ← scaled, Quotient.ofPowers, Nat.pow_zero, Nat.mul_one]

theorem mantissa_eq_zero_iff (x : Finite f) : x.parts.1 = 0 ↔ x.magnitude = 0 := by
  have pos := unit_pos f
  rcases x.normal_or_subnormal with small | ⟨n, k, word, low, high⟩
  · rw [parts_subnormal small]
  · rw [parts_normal word low high]
    have above : 0 < x.magnitude := by omega
    exact iff_of_false (by dsimp only; omega) above.ne'

theorem exact_num_eq_zero_iff (x : Finite f) : x.exact.num = 0 ↔ x.magnitude = 0 := by
  obtain ⟨i, j, _, value⟩ := x.exact_eq
  rw [value, Quotient.ofPowers, Nat.mul_eq_zero, mantissa_eq_zero_iff]
  exact or_iff_left (Nat.two_pow_pos i).ne'

/-- A number whose value rounds to the word of another with the same sign becomes that one. -/
theorem convert_eq {g : Format} {x : Finite f} {y : Finite g} (sign : y.negative = x.negative)
    (word : g.word x.exact = y.magnitude) : x.convert g = .finite y :=
  Format.round_eq sign word

theorem word_exact_of_zero {x : Finite f} (zero : x.magnitude = 0) (g : Format) :
    g.word x.exact = 0 :=
  if_pos (x.exact_num_eq_zero_iff.mpr zero)

end Finite

namespace Single

private theorem exists_double_zero {x : Single} (zero : x.magnitude = 0) :
    ∃ y : Double, x.convert .double = .finite y ∧ y.convert .single = .finite x :=
  ⟨⟨x.negative, 0, by decide⟩, Finite.convert_eq rfl (Finite.word_exact_of_zero zero _),
    Finite.convert_eq rfl (zero ▸ Finite.word_exact_of_zero rfl _)⟩

/-- The mantissa of a number of single precision, with zeros up to the digits of double precision. -/
private def padded (m : Nat) : Nat := m * 2 ^ (52 - m.log2)

private theorem log2_padded {m : Nat} (pos : m ≠ 0) (digits : m.log2 < 24) :
    (padded m).log2 = 52 := by
  rw [padded, log2_mul_two_pow pos]
  omega

private theorem padded_ne_zero {m : Nat} (pos : m ≠ 0) : padded m ≠ 0 :=
  Nat.mul_ne_zero pos (Nat.two_pow_pos _).ne'

/-- The exponent of a number of single precision: the last place of its mantissa is far above the least
double, and its first place far below the greatest. -/
private theorem exponent_bounds (x : Single) (pos : x.parts.1 ≠ 0) :
    x.parts.1.log2 < 24 ∧ -149 ≤ x.parts.2 ∧ x.parts.2 + x.parts.1.log2 < 128 := by
  have depth : Format.single.depth = 149 := by decide
  have mantissa : x.parts.1 < 2 ^ 24 := x.mantissa_lt
  have digits : x.parts.1.log2 < 24 := (Nat.log2_lt pos).mpr mantissa
  have full : x.parts.1.log2 = 23 → 2 ^ 23 ≤ x.parts.1 := fun h => h ▸ Nat.log2_self_le pos
  have exponent := x.exponent_parts pos
  have word := x.magnitude_parts
  have bound : x.magnitude < 255 * 2 ^ 23 := x.isLt
  change x.magnitude = (x.parts.2 + Format.single.depth).toNat * 2 ^ 23 + x.parts.1 at word
  change max (_ - ((23 : Nat) : Int)) _ = _ at exponent
  rw [depth] at word exponent
  omega

private theorem word_double (x : Single) (pos : x.parts.1 ≠ 0) :
    Format.double.word x.exact =
      (x.parts.1.log2 + x.parts.2 + 1022).toNat * Format.double.unit + padded x.parts.1 := by
  have depth : Format.double.depth = 1074 := by decide
  obtain ⟨digits, least, _⟩ := exponent_bounds x pos
  obtain ⟨i, j, shift, value⟩ := x.exact_eq
  have exponent : max ((x.parts.1.log2 : Int) + i - j - (Format.double.precision - 1 : Nat))
      (-(Format.double.depth : Int)) = x.parts.1.log2 + x.parts.2 - 52 := by
    change max (_ - ((52 : Nat) : Int)) _ = _
    omega
  have places : (i : Int) - j - (x.parts.1.log2 + x.parts.2 - 52) =
      (52 - x.parts.1.log2 : Nat) - (0 : Nat) := by omega
  rw [value, Format.double.word_ofPowers pos exponent places (Nat.mul_one _).symm, depth]
  congr 3
  omega

private theorem word_single {y : Double} {m : Nat} {e : Int} (parts : y.parts = (padded m, m.log2 + e - 52))
    (pos : m ≠ 0) (digits : m.log2 < 24) (exponent : max ((m.log2 : Int) + e - 23) (-149) = e) :
    Format.single.word y.exact = (e + 149).toNat * Format.single.unit + m := by
  have depth : Format.single.depth = 149 := by decide
  obtain ⟨i, j, shift, value⟩ := y.exact_eq
  rw [parts] at shift value
  have exponent' : max (((padded m).log2 : Int) + i - j - (Format.single.precision - 1 : Nat))
      (-(Format.single.depth : Int)) = e := by
    rw [log2_padded pos digits, depth]
    change max (_ - ((23 : Nat) : Int)) _ = _
    omega
  have places : (i : Int) - j - e = (0 : Nat) - (52 - m.log2 : Nat) := by omega
  rw [value, Format.single.word_ofPowers (padded_ne_zero pos) exponent' places (Nat.mul_one _), depth]
  rfl

/-- A number of single precision is a number of double precision, and narrowing gives it back. -/
theorem exists_double (x : Single) :
    ∃ y : Double, x.convert .double = .finite y ∧ y.convert .single = .finite x := by
  by_cases zero : x.magnitude = 0
  · exact exists_double_zero zero
  have pos : x.parts.1 ≠ 0 := mt x.mantissa_eq_zero_iff.mp zero
  obtain ⟨digits, least, greatest⟩ := exponent_bounds x pos
  have low : 2 ^ 52 ≤ padded x.parts.1 ∧ padded x.parts.1 < 2 ^ 53 :=
    (Nat.log2_eq_iff (padded_ne_zero pos)).mp (log2_padded pos digits)
  have word := word_double x pos
  have finite : Format.double.word x.exact < Format.double.infinity := by
    change _ < 2 ^ 52 * 2047
    rw [word]
    change _ * 2 ^ 52 + _ < _
    omega
  refine ⟨⟨x.negative, _, finite⟩, Finite.convert_eq rfl rfl, Finite.convert_eq rfl ?_⟩
  have depth : Format.double.depth = 1074 := by decide
  rw [x.magnitude_parts]
  refine word_single ?_ pos digits (x.exponent_parts pos)
  rw [Finite.parts_normal word low.1 low.2, depth]
  congr 1
  omega

end Single

end ScreenNavigation.Decimal
