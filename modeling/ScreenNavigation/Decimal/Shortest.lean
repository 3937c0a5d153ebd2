import ScreenNavigation.Decimal.Binary

/-!
The fewest decimal digits that read back as the same number. Grids of one digit, two digits and so
on are tried in turn, and on each grid only the two neighbours of the value can read back.
-/
namespace ScreenNavigation.Decimal

/-- Which neighbour a value exactly between two decimals takes. -/
inductive Tie where
  | up
  | even
  deriving DecidableEq, Repr

/-- A decimal `digits * 10 ^ exponent`. -/
structure Digits where
  digits : Nat
  exponent : Int
  deriving DecidableEq, Repr

/-- The reals that read back as one number: a value with its two bounds over one denominator. -/
structure Interval where
  low : Nat
  value : Nat
  high : Nat
  den : Nat
  closed : Bool
  deriving DecidableEq, Repr

namespace Finite

variable {f : Format}

/-- The lower half of the interval is shorter below a power of two. -/
def interval (x : Finite f) : Interval :=
  let (m, q) := x.parts
  let below := if m = f.unit ∧ f.unit ≤ x.magnitude - f.unit then 1 else 2
  let up := Nat.pow 2 q.toNat
  ⟨(4 * m - below) * up, 4 * m * up, (4 * m + 2) * up, 4 * Nat.pow 2 (-q).toNat, m % 2 = 0⟩

end Finite

namespace Interval

/-- The least `j` up to `fuel` with `1 ≤ value * 10 ^ j`. -/
def leadingZeros (num den : Nat) : Nat → Nat
  | 0 => 0
  | fuel + 1 => if den ≤ num then 0 else leadingZeros (num * 10) den fuel + 1

/-- The number of decimal digits of a natural. -/
def length (n : Nat) : Nat → Nat
  | 0 => 0
  | fuel + 1 => if n = 0 then 0 else length (n / 10) fuel + 1

/-- The `k` with `10 ^ (k - 1) ≤ value < 10 ^ k`, for a positive value. -/
def point (i : Interval) : Int :=
  if i.den ≤ i.value then length (i.value / i.den) (i.value.log2 + 1)
  else 1 - (leadingZeros i.value i.den (i.den.log2 + 1) : Int)

/-- The decimal of the grid with step `10 ^ e` that reads back and lies nearest. -/
def onGrid (i : Interval) (tie : Tie) (e : Int) : Option Nat :=
  let a := Nat.pow 10 (-e).toNat
  let b := i.den * Nat.pow 10 e.toNat
  let c := i.value * a / b
  let lowFits := if i.closed then i.low * a ≤ c * b else i.low * a < c * b
  let highFits := if i.closed then (c + 1) * b ≤ i.high * a else (c + 1) * b < i.high * a
  let below := i.value * a - c * b
  let above := (c + 1) * b - i.value * a
  if lowFits ∧ highFits then
    some (if below < above ∨ (below = above ∧ tie = .even ∧ c % 2 = 0) then c else c + 1)
  else if lowFits then some c
  else if highFits then some (c + 1)
  else none

/-- Tries grids with more and more digits; `fuel` counts the grids left. -/
def search (i : Interval) (tie : Tie) (e : Int) : Nat → Digits
  | 0 => ⟨i.value * Nat.pow 10 (-e).toNat / (i.den * Nat.pow 10 e.toNat), e⟩
  | fuel + 1 =>
    match i.onGrid tie e with
    | some d => ⟨d, e⟩
    | none => search i tie (e - 1) fuel

/-- Seventeen digits tell any two numbers of the formats in use apart. -/
def shortest (i : Interval) (tie : Tie) : Digits := search i tie (i.point - 1) 17

end Interval

namespace Digits

def dropZeros (d : Digits) : Nat → Digits
  | 0 => d
  | fuel + 1 =>
    if d.digits % 10 = 0 ∧ d.digits ≠ 0 then dropZeros ⟨d.digits / 10, d.exponent + 1⟩ fuel else d

/-- The same decimal without trailing zeros. -/
def trim (d : Digits) : Digits := dropZeros d (d.digits.log2 + 1)

end Digits

/-- The decimal digits of the absolute value; zero has the digit 0. -/
def Finite.digits {f : Format} (x : Finite f) (tie : Tie) : Digits :=
  if x.isZero then ⟨0, 0⟩ else (x.interval.shortest tie).trim

end ScreenNavigation.Decimal
