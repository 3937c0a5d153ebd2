import ScreenNavigation.Decimal.Reading
import ScreenNavigation.Decimal.Written
import ScreenNavigation.Proofs.Decimal.ShortestDigits

/-! Positional text as digits around a point. Wherever the point comes to stand, among the digits or in front
of zeros, the text is read as the decimal that was written. -/
namespace ScreenNavigation.Decimal

/-- Digits with a point between them that stand for a decimal. -/
structure IsPointed (whole fraction : List Char) (d : Digits) : Prop where
  given : whole ≠ []
  digits : ∀ c ∈ whole ++ fraction, c.isDigit = true
  value : (digitsValue (whole ++ fraction) : ℚ) * 10 ^ (-(fraction.length : ℤ)) = d.quotient.value

namespace Style

private theorem isDigit_zeros {n : ℕ} : ∀ c ∈ List.replicate n '0', c.isDigit = true := fun c hc => by
  rw [List.eq_of_mem_replicate hc]
  rfl

private theorem isDigit_digits {n : ℕ} : ∀ c ∈ Nat.toDigits 10 n, c.isDigit = true :=
  fun _ => Nat.isDigit_of_mem_toDigits (by decide) (by decide)

private theorem digitsValue_digits (n : ℕ) : digitsValue (Nat.toDigits 10 n) = n :=
  Nat.ofDigitChars_ten_toDigits

/-- Zeros behind digits multiply their value. -/
private theorem digitsValue_append_zeros (ds : List Char) (n : ℕ) :
    digitsValue (ds ++ List.replicate n '0') = 10 ^ n * digitsValue ds :=
  (Nat.ofDigitChars_append 0).trans Nat.ofDigitChars_replicate_zero

private theorem digitsValue_zeros_append (n : ℕ) (ds : List Char) :
    digitsValue (List.replicate n '0' ++ ds) = digitsValue ds := by
  have zeros : Nat.ofDigitChars 10 (List.replicate n '0') 0 = 0 :=
    Nat.ofDigitChars_replicate_zero.trans (Nat.mul_zero _)
  refine (Nat.ofDigitChars_append 0).trans ?_
  rw [zeros]
  rfl

section Point

variable {n : ℕ} {e point : ℤ}

/-- Digits around a point stand for the decimal when they do so without regard to the place of the point. -/
private theorem value_of_shift {v k : ℕ} (shift : v = 10 ^ k * n) {l : ℕ} (place : n ≠ 0 → (k : ℤ) - l = e) :
    (v : ℚ) * 10 ^ (-(l : ℤ)) = (Digits.mk n e).quotient.value := by
  rw [Digits.value_quotient]
  by_cases zero : n = 0
  · rw [shift, zero, Nat.mul_zero, Nat.cast_zero, zero_mul, zero_mul]
  · rw [← place zero, shift, Nat.cast_mul, Nat.cast_pow, Nat.cast_ofNat, sub_eq_add_neg,
      zpow_add₀ (by norm_num), zpow_natCast]
    ring

private theorem isPointed_below (place : n ≠ 0 → point = (Nat.toDigits 10 n).length + e) (low : point ≤ 0) :
    IsPointed ['0'] (List.replicate (-point).toNat '0' ++ Nat.toDigits 10 n) ⟨n, e⟩ where
  given := List.cons_ne_nil _ _
  digits c hc := by
    rcases List.mem_append.mp hc with front | behind
    · exact isDigit_zeros (n := 1) c front
    · exact (List.mem_append.mp behind).elim (isDigit_zeros c) (isDigit_digits c)
  value := by
    refine value_of_shift (k := 0) ?_ fun pos => ?_
    · rw [Nat.pow_zero, Nat.one_mul]
      exact (digitsValue_zeros_append ((-point).toNat + 1) _).trans (digitsValue_digits n)
    · have placed := place pos
      rw [List.length_append, List.length_replicate]
      omega

private theorem isPointed_behind (place : n ≠ 0 → point = (Nat.toDigits 10 n).length + e)
    (high : (Nat.toDigits 10 n).length ≤ point.toNat) :
    IsPointed (Nat.toDigits 10 n ++ List.replicate (point.toNat - (Nat.toDigits 10 n).length) '0')
      ['0'] ⟨n, e⟩ where
  given := List.append_ne_nil_of_left_ne_nil Nat.toDigits_ne_nil _
  digits c hc := by
    rcases List.mem_append.mp hc with front | last
    · exact (List.mem_append.mp front).elim (isDigit_digits c) (isDigit_zeros c)
    · exact isDigit_zeros (n := 1) c last
  value := by
    refine value_of_shift (k := point.toNat - (Nat.toDigits 10 n).length + 1) ?_ fun pos => ?_
    · rw [List.append_assoc, ← List.replicate_succ', digitsValue_append_zeros, digitsValue_digits]
    · have placed := place pos
      have some := List.length_pos_iff.mpr (Nat.toDigits_ne_nil (n := n) (b := 10))
      rw [List.length_singleton]
      omega

private theorem isPointed_inside (place : n ≠ 0 → point = (Nat.toDigits 10 n).length + e)
    (low : 0 < point) (high : ¬ (Nat.toDigits 10 n).length ≤ point.toNat) :
    IsPointed ((Nat.toDigits 10 n).take point.toNat) ((Nat.toDigits 10 n).drop point.toNat) ⟨n, e⟩ where
  given none := by
    have length := congrArg List.length none
    rw [List.length_take, List.length_nil] at length
    omega
  digits := by
    rw [List.take_append_drop]
    exact isDigit_digits
  value := by
    refine value_of_shift (k := 0) ?_ fun pos => ?_
    · rw [List.take_append_drop, digitsValue_digits, Nat.pow_zero, Nat.one_mul]
    · have placed := place pos
      rw [List.length_drop]
      omega

end Point

/-- Positional text has a point among its digits, or none and all its digits in front of it. -/
theorem exists_isPointed (d : Digits) : ∃ whole fraction, IsPointed whole fraction d ∧
    (positional.write d = String.ofList (whole ++ '.' :: fraction) ∨
      fraction = ['0'] ∧ positional.write d = String.ofList whole) := by
  obtain ⟨n, e⟩ := d
  have place : n ≠ 0 → (if n = 0 then 1 else ((Nat.toDigits 10 n).length : ℤ) + e) =
      (Nat.toDigits 10 n).length + e := fun pos => if_neg pos
  unfold write positional
  dsimp only
  rw [Nat.toString_eq_ofList_toDigits, String.length_ofList, String.toList_ofList]
  simp only [Option.all_none, Bool.and_self, if_true]
  generalize (if n = 0 then 1 else ((Nat.toDigits 10 n).length : ℤ) + e) = point at *
  split
  · rename_i low
    refine ⟨_, _, isPointed_below place low, .inl (String.toList_inj.mp ?_)⟩
    simp [zeros]
  · rename_i low
    split
    · rename_i high
      refine ⟨_, _, isPointed_behind place (by exact_mod_cast high), .inr ⟨rfl, String.toList_inj.mp ?_⟩⟩
      simp [zeros]
    · rename_i high
      refine ⟨_, _, isPointed_inside place (Int.not_le.mp low) (by exact_mod_cast high),
        .inl (String.toList_inj.mp ?_)⟩
      simp

end Style
end ScreenNavigation.Decimal
