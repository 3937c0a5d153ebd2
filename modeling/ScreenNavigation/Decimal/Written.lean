import ScreenNavigation.Decimal.Shortest

/-!
Numbers as text. Each written form is one `Style`: where positional writing ends, whether a whole
number keeps a point, and which way a tie between two shortest decimals goes.
-/
namespace ScreenNavigation.Decimal

/-- A written form. Positions count the digits before the point, so 0.001 has position -2; outside
the positions given, a number is written with an exponent. -/
structure Style where
  lowest : Option Int
  highest : Option Int
  wholePoint : Bool
  plusSign : Bool
  tie : Tie
  deriving DecidableEq, Repr

namespace Style

/-- Positional from 0.0001 up to below 1e16, and a whole number ends in .0. -/
def plain : Style := ⟨some (-3), some 16, true, false, .up⟩

/-- Always positional; a whole number has no point. -/
def positional : Style := ⟨none, none, false, false, .up⟩

/-- The form of JSON texts: positional from 0.00001 up to below 1e16, and a large exponent has a
plus sign. -/
def json : Style := ⟨some (-4), some 16, true, true, .even⟩

/-- The same for single precision, positional from 0.000001 up to below 1e13. -/
def jsonSingle : Style := { json with lowest := some (-5), highest := some 13 }

def zeros (n : Nat) : String := String.ofList (List.replicate n '0')

/-- Writes a decimal without its sign. -/
def write (s : Style) (d : Digits) : String :=
  let text := toString d.digits
  let n := text.length
  let point : Int := if d.digits = 0 then 1 else n + d.exponent
  let inside := s.lowest.all (· ≤ point) && s.highest.all (point ≤ ·)
  if inside then
    if point ≤ 0 then "0." ++ zeros (-point).toNat ++ text
    else if n ≤ point.toNat then
      text ++ zeros (point.toNat - n) ++ (if s.wholePoint then ".0" else "")
    else
      String.ofList (text.toList.take point.toNat) ++ "." ++
        String.ofList (text.toList.drop point.toNat)
  else
    let tail := String.ofList (text.toList.drop 1)
    String.ofList (text.toList.take 1) ++ (if tail.isEmpty then "" else "." ++ tail) ++
      "e" ++ (if s.plusSign && 0 ≤ point - 1 then "+" else "") ++ toString (point - 1)

end Style

/-- A number with its sign; a negative zero keeps it. -/
def Finite.write {f : Format} (x : Finite f) (s : Style) : String :=
  (if x.negative then "-" else "") ++ s.write (x.digits s.tie)

def Extended.write {f : Format} (x : Extended f) (s : Style) : String :=
  match x with
  | .finite x => x.write s
  | .infinite negative => if negative then "-inf" else "inf"
  | .nan => "NaN"

end ScreenNavigation.Decimal
