import ScreenNavigation.Json.Cursor

/-!
Numbers in JSON texts. Digits enter a significand of 64 bits as long as they fit; the value of a
real number is that significand times or divided by a power of ten, each rounded once.
-/
namespace ScreenNavigation.Json

open Decimal

private def powerOfTen (n : Nat) : Extended .double := Format.double.round false ⟨Nat.pow 10 n, 1⟩

private def scaleUp (f p : Extended .double) : Option Double :=
  match f, p with
  | .finite x, .finite y => (x.mul y).finite?
  | _, _ => none

private def scaleDown (f p : Extended .double) : Extended .double :=
  match f, p with
  | .finite x, .finite y => x.div y
  | _, _ => f

/-- Divides by powers of ten of at most 308; what is still left when `fuel` ends is zero. -/
private def divideDown (f : Extended .double) (places : Nat) : Nat → Extended .double
  | 0 => f
  | fuel + 1 =>
    if places ≤ 308 then scaleDown f (powerOfTen places)
    else divideDown (scaleDown f (powerOfTen 308)) (places - 308) fuel

/-- The double of a decimal significand, or none when it is out of range. -/
def scaledDouble (significand : Nat) (exponent : Int) : Option Double :=
  let f := Format.double.round false ⟨significand, 1⟩
  if significand = 0 then some Double.zero
  else if 308 < exponent then none
  else if 0 ≤ exponent then scaleUp f (powerOfTen exponent.toNat)
  else if exponent < -2000 then some Double.zero
  else (divideDown f (-exponent).toNat 8).finite?

/-- Digits of a number as they are read: what did not fit any more only counts. -/
structure Significand where
  value : Nat
  exponent : Int
  full : Bool

def digitValue (c : Char) : Nat := c.toNat - '0'.toNat

def Significand.addWhole (s : Significand) (c : Char) : Significand :=
  if s.full then { s with exponent := s.exponent + 1 }
  else if 0x10000000000000000 ≤ s.value * 10 + digitValue c then
    { s with exponent := s.exponent + 1, full := true }
  else { s with value := s.value * 10 + digitValue c }

private def Significand.addFraction (s : Significand) (c : Char) : Significand :=
  if s.full then s
  else if 0x10000000000000000 ≤ s.value * 10 + digitValue c then { s with full := true }
  else { s with value := s.value * 10 + digitValue c, exponent := s.exponent - 1 }

namespace Reader

def digitsFrom (c : Cursor) (taken : List Char) : Nat → List Char × Cursor
  | 0 => (taken.reverse, c)
  | fuel + 1 =>
    match c.rest.head? with
    | some d => if d.isDigit then digitsFrom c.step (d :: taken) fuel else (taken.reverse, c)
    | none => (taken.reverse, c)

/-- All digits that come next. -/
def digits : Reader (List Char) := fun c =>
  let (ds, d) := digitsFrom c [] c.rest.length
  .ok ds d

private def failDigit {α : Type} : Reader α := do
  match ← peek? with
  | some _ => failNext .badNumber
  | none => fail .endOfValue

/-- The digits before the point: a leading zero stands alone. -/
def wholeDigits : Reader (List Char) := do
  match ← peek? with
  | none => fail .endOfValue
  | some '0' =>
    skip
    match ← peek? with
    | some d => if d.isDigit then failNext .badNumber else pure ['0']
    | none => pure ['0']
  | some d => if d.isDigit then digits else failNext .badNumber

/-- The digits of an exponent; the result is none once they pass 31 bits. -/
private def exponentDigits (significandZero positive : Bool) (e : Nat) : Nat → Reader (Option Nat)
  | 0 => pure (some e)
  | fuel + 1 => do
    match ← peek? with
    | some d =>
      if d.isDigit then
        skip
        if 0x80000000 ≤ e * 10 + digitValue d then
          if !significandZero && positive then fail .numberRange
          else
            let _ ← digits
            pure none
        else exponentDigits significandZero positive (e * 10 + digitValue d) fuel
      else pure (some e)
    | none => pure (some e)

private def finish (negative : Bool) (significand : Nat) (exponent : Int) : Reader Number := do
  match scaledDouble significand exponent with
  | some x => pure (.real (if negative then x.neg else x))
  | none => fail .numberRange

private def exponentPart (negative : Bool) (s : Significand) : Reader Number := do
  skip
  let positive ← match ← peek? with
    | some '+' => do
      skip
      pure true
    | some '-' => do
      skip
      pure false
    | _ => pure true
  match ← peek? with
  | some d =>
    if d.isDigit then
      match ← exponentDigits (s.value == 0) positive 0 (← remaining) with
      | some e => finish negative s.value (if positive then s.exponent + e else s.exponent - e)
      | none => finish negative 0 0
    else failNext .badNumber
  | none => fail .endOfValue

def isExponentMark : Option Char → Bool
  | some 'e' => true
  | some 'E' => true
  | _ => false

private def fractionPart (negative : Bool) (s : Significand) : Reader Number := do
  skip
  let ds ← digits
  if ds.isEmpty then failDigit
  else
    let s := ds.foldl .addFraction { s with full := false }
    if isExponentMark (← peek?) then exponentPart negative s
    else finish negative s.value s.exponent

/-- A number whose sign is read. -/
def number (negative : Bool) : Reader Number := do
  let s := (← wholeDigits).foldl Significand.addWhole ⟨0, 0, false⟩
  match ← peek? with
  | some '.' => fractionPart negative s
  | next =>
    if isExponentMark next then exponentPart negative s
    else if s.full then finish negative s.value s.exponent
    else
      let n : Int := if negative then -(s.value : Int) else s.value
      match Whole.ofInt? n with
      | some w => if negative && n == 0 then pure (.real Double.zero.neg) else pure (.whole w)
      | none => finish negative s.value 0

/-- Steps over a number without taking its value, so that none is out of range. -/
def skipNumber : Reader Unit := do
  match ← peek? with
  | some '0' =>
    skip
    match ← peek? with
    | some d => if d.isDigit then failNext .badNumber else pure ()
    | none => pure ()
  | some d => if d.isDigit then (fun _ => ()) <$> digits else failNext .badNumber
  | none => fail .badNumber
  match ← peek? with
  | some '.' =>
    skip
    let ds ← digits
    if ds.isEmpty then failNext .badNumber
    else if isExponentMark (← peek?) then skipExponent
  | next => if isExponentMark next then skipExponent
where
  skipExponent : Reader Unit := do
    skip
    match ← peek? with
    | some '+' => skip
    | some '-' => skip
    | _ => pure ()
    match ← peek? with
    | some d => if d.isDigit then (fun _ => ()) <$> digits else failNext .badNumber
    | none => fail .badNumber

end Reader

end ScreenNavigation.Json
