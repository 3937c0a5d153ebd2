import ScreenNavigation.Decimal.Binary

/-!
Reading numbers from text: a sign, digits with at most one point and an exponent, or one of the words
for infinity and for what is no number. The nearest number of the format is taken.
-/
namespace ScreenNavigation.Decimal

inductive ReadFault where
  | emptyText
  | notNumber
  deriving DecidableEq, Repr

private def isDigit (c : Char) : Bool := '0' ≤ c && c ≤ '9'

/-- The value of digits, most significant first. -/
def digitsValue (ds : List Char) : Nat := ds.foldl (fun n c => 10 * n + (c.toNat - '0'.toNat)) 0

private def splitSign : List Char → Bool × List Char
  | '-' :: rest => (true, rest)
  | '+' :: rest => (false, rest)
  | cs => (false, cs)

/-- The exponent at the end of a number; without one it is zero. -/
private def exponent? : List Char → Option Int
  | [] => some 0
  | c :: rest =>
    if c = 'e' ∨ c = 'E' then
      let (negative, ds) := splitSign rest
      if ds.isEmpty || !ds.all isDigit then none
      else some (if negative then -(digitsValue ds : Int) else digitsValue ds)
    else none

/-- The number nearest to `n * 10 ^ e`. Far from the range of the format no power is computed. -/
private def scaled (f : Format) (negative : Bool) (n length : Nat) (e : Int) : Extended f :=
  if n = 0 ∨ e + length < -1000 then f.round negative ⟨0, 1⟩
  else if 1000 < e then .infinite negative
  else f.round negative ((Quotient.mk n 1).scale 10 e)

private def unsigned (f : Format) (negative : Bool) (cs : List Char) : Option (Extended f) :=
  let whole := cs.takeWhile isDigit
  let rest := cs.dropWhile isDigit
  let fraction := match rest with
    | '.' :: more => more.takeWhile isDigit
    | _ => []
  let tail := match rest with
    | '.' :: more => more.dropWhile isDigit
    | _ => rest
  let digits := whole ++ fraction
  if digits.isEmpty then none
  else (exponent? tail).map fun e =>
    scaled f negative (digitsValue digits) digits.length (e - fraction.length)

/-- Reads a number; letters may be of either case. -/
def Extended.read (f : Format) (s : String) : Except ReadFault (Extended f) :=
  let (negative, cs) := splitSign s.toList
  let word := String.ofList (cs.map Char.toLower)
  if s.isEmpty then .error .emptyText
  else if word = "nan" then .ok .nan
  else if word = "inf" ∨ word = "infinity" then .ok (.infinite negative)
  else match unsigned f negative cs with
    | some x => .ok x
    | none => .error .notNumber

section Point

variable (f : Format)

private theorem splitSign_digit {c : Char} (digit : isDigit c = true) (rest : List Char) :
    splitSign (c :: rest) = (false, c :: rest) := by
  have notMinus : c ≠ '-' := by
    rintro rfl
    revert digit
    decide
  have notPlus : c ≠ '+' := by
    rintro rfl
    revert digit
    decide
  rw [splitSign.eq_def]
  split
  · rename_i same
    exact absurd (List.cons.inj same).1 notMinus
  · rename_i same
    exact absurd (List.cons.inj same).1 notPlus
  · rfl

private theorem unsigned_point {whole fraction : List Char} (given : whole ≠ [])
    (wholeDigits : ∀ c ∈ whole, isDigit c = true) (fractionDigits : ∀ c ∈ fraction, isDigit c = true) :
    unsigned f false (whole ++ '.' :: fraction) = some
      (scaled f false (digitsValue (whole ++ fraction)) (whole ++ fraction).length (-fraction.length)) := by
  have point : isDigit '.' = false := by decide
  have takes : (whole ++ '.' :: fraction).takeWhile isDigit = whole := by
    rw [List.takeWhile_append_of_pos wholeDigits, List.takeWhile_cons_of_neg (by simp [point]),
      List.append_nil]
  have drops : (whole ++ '.' :: fraction).dropWhile isDigit = '.' :: fraction := by
    rw [List.dropWhile_append_of_pos wholeDigits, List.dropWhile_cons_of_neg (by simp [point])]
  have takesAll : fraction.takeWhile isDigit = fraction := by
    rw [← List.append_nil fraction, List.takeWhile_append_of_pos fractionDigits, List.takeWhile_nil]
  have dropsAll : fraction.dropWhile isDigit = [] := by
    rw [← List.append_nil fraction, List.dropWhile_append_of_pos fractionDigits, List.dropWhile_nil]
  have some : (whole ++ fraction).isEmpty = false := by
    cases whole with
    | nil => exact absurd rfl given
    | cons c rest => rfl
  unfold unsigned
  simp only [takes, drops, takesAll, dropsAll, some, exponent?, Option.map_some]
  rw [if_neg Bool.false_ne_true, Int.zero_sub]

private theorem scaled_point (negative : Bool) (n : Nat) {length : Nat} {e : Int} (low : 0 ≤ e + length)
    (high : e ≤ 0) : scaled f negative n length e = f.round negative ((Quotient.mk n 1).scale 10 e) := by
  unfold scaled
  by_cases zero : n = 0
  · have num : ((Quotient.mk n 1).scale 10 e).num = 0 := by
      rw [zero, Quotient.scale]
      split
      · exact Nat.zero_mul _
      · rfl
    have same : f.word ((Quotient.mk n 1).scale 10 e) = f.word ⟨0, 1⟩ := by
      rw [Format.word, if_pos num, Format.word, if_pos rfl]
    rw [if_pos (.inl zero), Format.round, Format.round]
    simp only [same]
  · rw [if_neg (by omega), if_neg (by omega)]

private theorem toLower_digit {c : Char} (digit : isDigit c = true) : c.toLower = c := by
  have last : c ≤ '9' := by simpa using (Bool.and_eq_true_iff.mp digit).2
  have low : ¬ c.val ≥ 'A'.val := by
    simp only [Char.le_def, UInt32.le_iff_toNat_le, ge_iff_le] at last ⊢
    exact Nat.not_le.mpr (Nat.lt_of_le_of_lt last (by decide))
  exact dif_neg fun upper => low upper.1

/-- Digits around a point are read whatever their number is. -/
theorem Extended.read_point {whole fraction : List Char} (given : whole ≠ [])
    (digits : ∀ c ∈ whole ++ fraction, c.isDigit = true) :
    Extended.read f (String.ofList (whole ++ '.' :: fraction)) = .ok (f.round false
      ((Quotient.mk (digitsValue (whole ++ fraction)) 1).scale 10 (-fraction.length))) := by
  have wholeDigits : ∀ c ∈ whole, isDigit c = true :=
    fun c hc => digits c (List.mem_append_left _ hc)
  have fractionDigits : ∀ c ∈ fraction, isDigit c = true :=
    fun c hc => digits c (List.mem_append_right _ hc)
  have number := unsigned_point f given wholeDigits fractionDigits
  rw [scaled_point f false _ (by rw [List.length_append]; omega) (by omega)] at number
  obtain ⟨c, rest, rfl⟩ := List.exists_cons_of_ne_nil given
  have sign := splitSign_digit (wholeDigits c (.head _)) (rest ++ '.' :: fraction)
  rw [List.cons_append] at number ⊢
  have notEmpty : (String.ofList (c :: (rest ++ '.' :: fraction))).isEmpty = false := by simp
  have noWord (word : String) (letter : word.toList.head?.any isDigit = false) :
      String.ofList ((c :: (rest ++ '.' :: fraction)).map Char.toLower) ≠ word := by
    rintro rfl
    have digit := wholeDigits c (.head _)
    rw [String.toList_ofList, List.map_cons, List.head?_cons, Option.any_some, toLower_digit digit,
      digit] at letter
    cases letter
  unfold Extended.read
  rw [String.toList_ofList, sign]
  dsimp only
  rw [notEmpty, number, if_neg Bool.false_ne_true, if_neg (noWord "nan" (by decide)),
    if_neg (not_or.mpr ⟨noWord "inf" (by decide), noWord "infinity" (by decide)⟩)]

end Point

end ScreenNavigation.Decimal
