/-!
Binary floating-point numbers as exact values. A number is a sign and a magnitude word, and every
operation rounds an exact quotient of naturals once, to the nearest word and to even on a tie.
-/
namespace ScreenNavigation.Decimal

/-- A binary format: `precision` counts the leading bit, `exponentBits` the bits of the exponent. -/
structure Format where
  precision : Nat
  exponentBits : Nat
  deriving DecidableEq, Repr

namespace Format

def double : Format := ⟨53, 11⟩

def single : Format := ⟨24, 8⟩

/-- The weight of one unit of the exponent field. -/
def unit (f : Format) : Nat := Nat.pow 2 (f.precision - 1)

/-- The magnitude word of infinity; every smaller word is a finite number. -/
def infinity (f : Format) : Nat := f.unit * (Nat.pow 2 f.exponentBits - 1)

/-- The least number of the format is two to the power of minus `depth`. -/
def depth (f : Format) : Nat := Nat.pow 2 (f.exponentBits - 1) - 3 + f.precision

end Format

/-- A finite number. Words grow with the value, so the order of magnitudes is the order of words. -/
structure Finite (f : Format) where
  negative : Bool
  magnitude : Nat
  isLt : magnitude < f.infinity
  deriving DecidableEq, Repr

abbrev Double := Finite .double

abbrev Single := Finite .single

/-- A number, an infinity or the one value that is not a number. -/
inductive Extended (f : Format) where
  | finite (x : Finite f)
  | infinite (negative : Bool)
  | nan
  deriving DecidableEq, Repr

/-- A quotient of naturals with a positive denominator in every use. -/
structure Quotient where
  num : Nat
  den : Nat
  deriving DecidableEq, Repr

namespace Quotient

/-- Multiplies by a power of `base` with any sign of the exponent. -/
def scale (q : Quotient) (base : Nat) (e : Int) : Quotient :=
  if 0 ≤ e then ⟨q.num * Nat.pow base e.toNat, q.den⟩
  else ⟨q.num, q.den * Nat.pow base (-e).toNat⟩

/-- The exponent `e` with `2 ^ e ≤ q < 2 ^ (e + 1)`, for a positive quotient. -/
def log2 (q : Quotient) : Int :=
  let e : Int := (q.num.log2 : Int) - q.den.log2
  let s := q.scale 2 (-e)
  if s.num < s.den then e - 1 else e

/-- The nearest natural, the even one of two. -/
def nearest (q : Quotient) : Nat :=
  let whole := q.num / q.den
  let rest := q.num % q.den
  if q.den < 2 * rest ∨ (q.den = 2 * rest ∧ whole % 2 = 1) then whole + 1 else whole

end Quotient

namespace Format

/-- The word nearest to a quotient; it can reach or pass the word of infinity. -/
def word (f : Format) (q : Quotient) : Nat :=
  if q.num = 0 then 0 else
    let e := max (q.log2 - (f.precision - 1 : Nat)) (-(f.depth : Int))
    (e + f.depth).toNat * f.unit + (q.scale 2 (-e)).nearest

/-- The number nearest to a signed quotient. -/
def round (f : Format) (negative : Bool) (q : Quotient) : Extended f :=
  if h : f.word q < f.infinity then .finite ⟨negative, f.word q, h⟩ else .infinite negative

end Format

namespace Finite

variable {f : Format}

/-- The mantissa and the power of two of a number. -/
def parts (x : Finite f) : Nat × Int :=
  let field := x.magnitude / f.unit
  let fraction := x.magnitude % f.unit
  if field = 0 then (fraction, -(f.depth : Int))
  else (f.unit + fraction, (field : Int) - 1 - f.depth)

/-- The absolute value as an exact quotient. -/
def exact (x : Finite f) : Quotient :=
  (Quotient.mk x.parts.1 1).scale 2 x.parts.2

def isZero (x : Finite f) : Bool := x.magnitude == 0

def neg (x : Finite f) : Finite f := { x with negative := !x.negative }

def abs (x : Finite f) : Finite f := { x with negative := false }

/-- Equality of values: the two zeros are equal. -/
def sameValue (x y : Finite f) : Bool :=
  (x.isZero && y.isZero) || (x.negative == y.negative && x.magnitude == y.magnitude)

def mul (x y : Finite f) : Extended f :=
  f.round (x.negative != y.negative) ⟨x.exact.num * y.exact.num, x.exact.den * y.exact.den⟩

/-- Division by a number that is not zero. -/
def div (x y : Finite f) : Extended f :=
  f.round (x.negative != y.negative) ⟨x.exact.num * y.exact.den, x.exact.den * y.exact.num⟩

/-- The nearest number of another format. -/
def convert (g : Format) (x : Finite f) : Extended g := g.round x.negative x.exact

end Finite

def Double.zero : Double := ⟨false, 0, by decide⟩

def Single.zero : Single := ⟨false, 0, by decide⟩

namespace Extended

variable {f : Format}

def convert (g : Format) : Extended f → Extended g
  | .finite x => x.convert g
  | .infinite negative => .infinite negative
  | .nan => .nan

def finite? : Extended f → Option (Finite f)
  | .finite x => some x
  | _ => none

/-- Equality of values; a number differs from what is not a number, which differs from itself. -/
def sameValue : Extended f → Extended f → Bool
  | .finite x, .finite y => x.sameValue y
  | .infinite a, .infinite b => a == b
  | _, _ => false

end Extended

end ScreenNavigation.Decimal
