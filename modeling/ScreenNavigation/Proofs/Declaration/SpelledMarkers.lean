import ScreenNavigation.Declaration.Default
import ScreenNavigation.Proofs.Decimal.Narrowing
import ScreenNavigation.Proofs.Decimal.PointedText
import ScreenNavigation.Proofs.Declaration.StorageTypes
import ScreenNavigation.Proofs.Declaration.ZeroLiterals
import ScreenNavigation.Proofs.Source.Literals

/-! What markers mean once they are spelled. The expression of a marker that fits its type is read as a value
of this type, and the value is the marker again. -/
namespace ScreenNavigation

namespace Decimal

def Extended.neg {f : Format} : Extended f → Extended f
  | .finite x => .finite x.neg
  | .infinite negative => .infinite (!negative)
  | .nan => .nan

end Decimal

open Decimal

namespace Source

/-- What an expression without variables is worth. -/
inductive Datum where
  | bool (b : Bool)
  | whole (n : Int)
  | single (x : Extended .single)
  | double (x : Extended .double)
  | char (c : Char)
  | text (s : String)
  | absent
  | present (d : Datum)

end Source

namespace Declaration

open Source

namespace Primitive

/-- The whole numbers of a type: the least, and the first that is too large. -/
def range? : Primitive → Option (Int × Int)
  | i8 => some (-0x80, 0x80)
  | i16 => some (-0x8000, 0x8000)
  | i32 => some (-0x80000000, 0x80000000)
  | i64 => some (-0x8000000000000000, 0x8000000000000000)
  | u8 => some (0, 0x100)
  | u16 => some (0, 0x10000)
  | u32 => some (0, 0x100000000)
  | u64 => some (0, 0x10000000000000000)
  | _ => none

def Holds (p : Primitive) (n : Int) : Prop := p.range?.any fun (low, high) => low ≤ n && n < high

instance (p : Primitive) (n : Int) : Decidable (p.Holds n) := inferInstanceAs (Decidable (_ = true))

/-- An expression of a type of whole numbers. -/
def readWhole (p : Primitive) (tokens : List Token) : Option Datum := do
  let (negative, s) ← Literals.signed? tokens
  let n ← Literals.natural? s
  let value : Int := if negative then -n else n
  if p.Holds value then some (.whole value) else none

/-- An expression of a primitive type. -/
def read (p : Primitive) (tokens : List Token) : Option Datum :=
  match p with
  | bool =>
    match tokens with
    | [.word "true"] => some (.bool true)
    | [.word "false"] => some (.bool false)
    | _ => none
  | char =>
    match tokens with
    | [.literal s] => (Literals.char? s).map .char
    | _ => none
  | f32 => do
    let (negative, s) ← Literals.signed? tokens
    let x ← Literals.real? .single s
    return .single (if negative then x.neg else x)
  | f64 => do
    let (negative, s) ← Literals.signed? tokens
    let x ← Literals.real? .double s
    return .double (if negative then x.neg else x)
  | _ => p.readWhole tokens

end Primitive

/-- An owned text. -/
def readText : List Token → Option Datum
  | [.word "String", .mark ':' true, .mark ':' false, .word "from", .group .parenthesis [.literal s]] =>
    (Literals.string? s).map .text
  | _ => none

/-- An expression of a type that is no option. -/
def readPlain (t : Ty) (tokens : List Token) : Option Datum := do
  let name ← t.word?
  if name = "String" then readText tokens else (← Primitive.ofName? name).read tokens

/-- An expression of a type. -/
def readAs (t : Ty) (tokens : List Token) : Option Datum :=
  match t.optional? with
  | none => readPlain t tokens
  | some inner =>
    match tokens with
    | [.word "None"] => some .absent
    | [.word "Some", .group .parenthesis content] => (readPlain inner content).map .present
    | _ => none

/-- The marker has a value of the type. -/
def Fits (t : FieldType) : Json.Value → Prop
  | .null => True
  | .bool _ => t.primitive? = some .bool
  | .number n => ∃ p, t.primitive? = some p ∧
      (p.isFloat = true ∨ ∃ w, n = .whole w ∧ p.Holds w.value)
  | .string s => t = .string ∨ t.primitive? = some .char ∧ s.toList.length = 1
  | .array _ => False
  | .object _ => False

/-- The value of a number in a type; of the numbers of single precision a nearest one is taken. -/
def Primitive.Means (p : Primitive) (n : Json.Number) (d : Datum) : Prop :=
  match p with
  | .f32 => ∃ x y, n.toDouble = .finite x ∧ d = .single y ∧ y.IsNearest x.negative x.exact.value
  | .f64 => ∃ x, n.toDouble = .finite x ∧ d = .double (.finite x)
  | _ => ∃ w, n = .whole w ∧ d = .whole w.value

/-- The value of a marker, without an option around it. -/
def Means (t : FieldType) (m : Json.Value) (d : Datum) : Prop :=
  match m with
  | .null => ∃ p, t = .primitive p ∧
      match p with
      | .bool => d = .bool false
      | .char => d = .char '\x00'
      | .f32 => d = .single (.finite Single.zero)
      | .f64 => d = .double (.finite Double.zero)
      | _ => d = .whole 0
  | .bool b => d = .bool b
  | .number n => ∃ p, t.primitive? = some p ∧ p.Means n d
  | .string s => (t = .string ∧ d = .text s) ∨ ∃ c, t.primitive? = some .char ∧ s = String.ofList [c] ∧ d = .char c
  | .array _ => False
  | .object _ => False

/-- The value of a marker in the storage of a field. -/
def Denotes (t : FieldType) (m : Json.Value) (d : Datum) : Prop :=
  if t.isNullable then
    (m = .null ∧ d = .absent) ∨ (m ≠ .null ∧ ∃ inner, d = .present inner ∧ Means t m inner)
  else Means t m d

section RealText

variable (x : Double)

/-- A text with a point in it is read whole; without one, a point and a zero are put behind it. -/
private theorem real?_isPointed {whole fraction : List Char} {d : Digits} (pointed : IsPointed whole fraction d)
    (f : Format) : Literals.real? f (String.ofList (whole ++ '.' :: fraction)) =
      some (f.round false ((Decimal.Quotient.mk (digitsValue (whole ++ fraction)) 1).scale 10
        (-fraction.length))) := by
  have wholeDigits : ∀ c ∈ whole, c.isDigit = true :=
    fun c hc => pointed.digits c (List.mem_append_left _ hc)
  have fractionDigits : fraction.all Char.isDigit = true :=
    List.all_eq_true.mpr fun c hc => pointed.digits c (List.mem_append_right _ hc)
  have given : whole.isEmpty = false := List.isEmpty_eq_false_iff.mpr pointed.given
  rw [Literals.real?, String.toList_ofList, List.takeWhile_append_of_pos wholeDigits,
    List.dropWhile_append_of_pos wholeDigits, List.takeWhile_cons_of_neg (by decide),
    List.dropWhile_cons_of_neg (by decide), List.append_nil]
  change (if whole.isEmpty || !fraction.all Char.isDigit then none else _) = _
  rw [given, fractionDigits, Extended.read_point f pointed.given pointed.digits]
  rfl

private theorem exists_realText : ∃ whole fraction, IsPointed whole fraction (x.abs.digits .up) ∧
    Default.realText x = String.ofList (whole ++ '.' :: fraction) := by
  obtain ⟨whole, fraction, pointed, text⟩ := Style.exists_isPointed (x.abs.digits .up)
  have written : x.abs.write .positional = Style.positional.write (x.abs.digits .up) := by
    rw [Finite.write]
    exact String.empty_append
  refine ⟨whole, fraction, pointed, ?_⟩
  rw [Default.realText, written]
  rcases text with text | ⟨rfl, text⟩
  · rw [text, if_pos]
    simp
  · have none : ¬ '.' ∈ whole := fun point => by
      have digit := pointed.digits _ (List.mem_append_left _ point)
      cases digit
    rw [text, if_neg (by simpa using none)]
    exact String.toList_inj.mp (by simp)

/-- The text of a double stands for a value that is rounded to it. -/
theorem real?_realText : ∃ q : Decimal.Quotient, 0 < q.den ∧ Format.double.RoundsTo q.value x.magnitude ∧
    ∀ f, Literals.real? f (Default.realText x) = some (f.round false q) := by
  obtain ⟨whole, fraction, pointed, text⟩ := exists_realText x
  refine ⟨_, Decimal.Quotient.den_scale_pos (by decide) Nat.one_pos _, ?_,
    fun f => text ▸ real?_isPointed pointed f⟩
  rw [Decimal.Quotient.value_scale (by decide), Decimal.Quotient.value, Nat.cast_one, div_one,
    Nat.cast_ofNat, pointed.value]
  exact x.abs.roundsTo_digits (by decide) (by decide) .up

/-- The text of a double is read back as its absolute value. -/
theorem real?_realText_double :
    Literals.real? .double (Default.realText x) = some (.finite x.abs) := by
  obtain ⟨q, den, rounds, read⟩ := real?_realText x
  have word := Format.double.word_eq_of_roundsTo (by decide) den rounds
  rw [read]
  exact congrArg some (Format.round_eq (y := x.abs) rfl word)

/-- The text of a double is read back as a single that is nearest to its absolute value. -/
theorem exists_single_realText : ∃ y, Literals.real? .single (Default.realText x) = some y ∧
    y.IsNearest false x.exact.value := by
  obtain ⟨q, den, rounds, read⟩ := real?_realText x
  exact ⟨_, read .single, Double.isNearest_single den rounds false⟩

end RealText

section Tokens

private theorem signed?_signed (negative : Bool) (s : String) :
    Literals.signed? (Default.signed negative s).tokens = some (negative, s) := by
  cases negative <;> rfl

private theorem tokens_present (e : Expression) :
    (Expression.present e).tokens = [.word "Some", .group .parenthesis e.tokens] := rfl

end Tokens

namespace Primitive

variable {p : Primitive} (t : FieldType)

private theorem read_bool (b : Bool) :
    bool.read ((Default.bool b).plainExpression t).tokens = some (.bool b) := by
  cases b <;> rfl

private theorem read_char (c : Char) :
    char.read ((Default.char c).plainExpression t).tokens = some (.char c) := by
  change (Literals.char? (Text.quotedCharacter c)).map Datum.char = _
  rw [Literals.char?_quotedCharacter, Option.map_some]

private theorem read_whole {n : Json.Whole} (holds : p.Holds n.value) :
    p.read ((Default.whole n).plainExpression t).tokens = some (.whole n.value) := by
  have value : (if decide (n.value < 0) then -(n.value.natAbs : Int) else n.value.natAbs) = n.value := by
    split
    · rename_i negative
      have less := of_decide_eq_true negative
      omega
    · rename_i positive
      have least := mt decide_eq_true positive
      omega
  have whole : p.readWhole ((Default.whole n).plainExpression t).tokens = some (.whole n.value) := by
    rw [readWhole, Default.plainExpression, signed?_signed]
    simp only [Option.bind_eq_bind, Option.bind_some, Literals.natural?_toString, value]
    exact if_pos holds
  cases p with
  | bool => cases holds
  | char => cases holds
  | f32 => cases holds
  | f64 => cases holds
  | _ => exact whole

private theorem neg_abs (x : Double) :
    (if x.negative then (Extended.finite x.abs).neg else .finite x.abs) = .finite x := by
  obtain ⟨negative, _, _⟩ := x
  cases negative <;> rfl

private theorem read_double (x : Double) :
    f64.read ((Default.real x).plainExpression t).tokens = some (.double (.finite x)) := by
  rw [read, Default.plainExpression, signed?_signed]
  simp only [Option.bind_eq_bind, Option.bind_some, Option.pure_def, real?_realText_double, neg_abs]

private theorem isNearest_neg {v : ℚ} {y : Extended .single} (nearest : y.IsNearest false v) (negative : Bool) :
    (if negative then y.neg else y).IsNearest negative v := by
  cases negative with
  | false => exact nearest
  | true =>
    cases y with
    | finite y => exact ⟨congrArg Bool.not nearest.1, nearest.2⟩
    | infinite sign => exact ⟨congrArg Bool.not nearest.1, nearest.2⟩
    | nan => exact nearest

private theorem exists_read_single (x : Double) :
    ∃ y, f32.read ((Default.real x).plainExpression t).tokens = some (.single y) ∧
      y.IsNearest x.negative x.exact.value := by
  obtain ⟨y, found, nearest⟩ := exists_single_realText x
  refine ⟨_, ?_, isNearest_neg nearest x.negative⟩
  rw [read, Default.plainExpression, signed?_signed]
  simp only [Option.bind_eq_bind, Option.bind_some, Option.pure_def, found]

private theorem read_single_zero :
    f32.read ((Default.real Double.zero).plainExpression t).tokens =
      some (.single (.finite Single.zero)) := by
  rfl

end Primitive

private theorem readText_text (s : String) :
    readText ((Default.text s).plainExpression .string).tokens = some (.text s) := by
  change (Literals.string? (Text.stringLiteral s)).map Datum.text = _
  rw [Literals.string?_stringLiteral, Option.map_some]

section Types

variable {t : FieldType} {p : Primitive} (tokens : List Token)

private theorem readPlain_primitive (primitive : t.primitive? = some p) :
    readPlain t.valueType tokens = p.read tokens := by
  have name : t.valueType = .named p.name := by
    cases t with
    | primitive q =>
      cases primitive
      rfl
    | boxed q =>
      cases primitive
      rfl
    | _ => cases primitive
  have word : (Ty.named p.name).word? = some p.name := rfl
  have other : p.name ≠ "String" := by cases p <;> decide
  rw [name, readPlain, word]
  simp only [Option.bind_eq_bind, Option.bind_some, if_neg other, Primitive.ofName?_name]

private theorem readAs_storageType : readAs t.storageType
    (if t.isNullable then [.word "Some", .group .parenthesis tokens] else tokens) =
      if t.isNullable then (readPlain t.valueType tokens).map .present else readPlain t.valueType tokens := by
  rw [readAs, FieldType.optional?_storageType]
  cases nullable : t.isNullable with
  | true => rfl
  | false =>
    rw [FieldType.storageType, nullable]
    rfl

end Types

section Markers

variable {t : FieldType} {m : Json.Value}

/-- In a type of real numbers every number is the nearest of them. -/
private theorem ofMarker_real {p : Primitive} (primitive : t.primitive? = some p) (float : p.isFloat = true)
    (n : Json.Number) : ∃ x, n.toDouble = .finite x ∧ Default.ofMarker (.number n) t = .real x := by
  have real : t.primitive?.any Primitive.isFloat = true := by rw [primitive, Option.any_some, float]
  cases n with
  | real x => exact ⟨x, rfl, rfl⟩
  | whole n =>
    obtain ⟨x, rounded⟩ := (Json.Number.whole n).toDouble_finite
    exact ⟨x, rounded, Default.ofMarker_rounded real rounded⟩

private theorem not_isFloat_of_holds {p : Primitive} {n : Int} (holds : p.Holds n) : p.isFloat = false := by
  cases p with
  | f32 => cases holds
  | f64 => cases holds
  | _ => rfl

private theorem means_of_holds {p : Primitive} {n : Json.Whole} (holds : p.Holds n.value) :
    p.Means (.whole n) (.whole n.value) := by
  cases p with
  | f32 => cases holds
  | f64 => cases holds
  | _ => exact ⟨n, rfl, rfl⟩

/-- A value that is written as itself, inside the option of a type that has one. -/
private def IsWritten (d : Default) : Prop := d ≠ .null ∧ ∀ json, d ≠ .unsupported json

private theorem expression_of_isWritten {d : Default} (written : IsWritten d) : d.expression t =
    if t.isNullable then .present (d.plainExpression t) else d.plainExpression t := by
  cases d with
  | null => exact absurd rfl written.1
  | unsupported json => exact absurd rfl (written.2 json)
  | _ => rfl

private theorem read_plainExpression (fits : Fits t m) (given : m ≠ .null) : IsWritten (.ofMarker m t) ∧
    ∃ d, readPlain t.valueType ((Default.ofMarker m t).plainExpression t).tokens = some d ∧ Means t m d := by
  cases m with
  | null => exact absurd rfl given
  | bool b =>
    have written : IsWritten (.bool b) := by simp [IsWritten]
    refine ⟨written, .bool b, ?_, rfl⟩
    rw [readPlain_primitive _ fits]
    exact Primitive.read_bool t b
  | number n =>
    obtain ⟨p, primitive, float | ⟨w, rfl, holds⟩⟩ := fits
    · obtain ⟨x, rounded, same⟩ := ofMarker_real primitive float n
      rw [same, readPlain_primitive _ primitive]
      refine ⟨by simp [IsWritten], ?_⟩
      cases p with
      | f32 =>
        obtain ⟨y, read, nearest⟩ := Primitive.exists_read_single t x
        exact ⟨_, read, _, primitive, x, y, rounded, rfl, nearest⟩
      | f64 => exact ⟨_, Primitive.read_double t x, _, primitive, x, rounded, rfl⟩
      | _ => cases float
    · have whole : t.primitive?.any Primitive.isFloat = false := by
        rw [primitive, Option.any_some, not_isFloat_of_holds holds]
      rw [Default.ofMarker_whole whole, readPlain_primitive _ primitive]
      exact ⟨by simp [IsWritten], _, Primitive.read_whole t holds, p, primitive, means_of_holds holds⟩
  | string s =>
    rcases fits with rfl | ⟨primitive, length⟩
    · have same : Default.ofMarker (.string s) .string = .text s := rfl
      rw [same]
      exact ⟨by simp [IsWritten], .text s, readText_text s, .inl ⟨rfl, rfl⟩⟩
    · obtain ⟨c, single⟩ := List.length_eq_one_iff.mp length
      have same : Default.ofMarker (.string s) t = .char c := by
        simp only [Default.ofMarker, primitive, single]
      rw [same, readPlain_primitive _ primitive]
      refine ⟨by simp [IsWritten], .char c, Primitive.read_char t c, .inr ⟨c, primitive, ?_, rfl⟩⟩
      rw [← single, String.ofList_toList]
  | array items => exact fits.elim
  | object entries => exact fits.elim

private theorem tokens_expression {d : Default} (written : IsWritten d) : (d.expression t).tokens =
    if t.isNullable then [.word "Some", .group .parenthesis (d.plainExpression t).tokens]
    else (d.plainExpression t).tokens := by
  rw [expression_of_isWritten written]
  split
  · exact tokens_present _
  · rfl

private theorem read_primitive_zero (p : Primitive) :
    ∃ d, p.read ((Default.zero (.primitive p)).plainExpression (.primitive p)).tokens = some d ∧
      Means (.primitive p) .null d := by
  cases p with
  | bool => exact ⟨_, Primitive.read_bool _ false, _, rfl, rfl⟩
  | char => exact ⟨_, Primitive.read_char _ '\x00', _, rfl, rfl⟩
  | f32 => exact ⟨_, Primitive.read_single_zero _, _, rfl, rfl⟩
  | f64 => exact ⟨_, Primitive.read_double _ Double.zero, _, rfl, rfl⟩
  | _ => exact ⟨_, Primitive.read_whole _ (n := ⟨0, by decide, by decide⟩) (by decide), _, rfl, rfl⟩

private theorem isWritten_zero (p : Primitive) : IsWritten (Default.zero (.primitive p)) := by
  rw [Default.zero_primitive]
  cases p <;> exact ⟨nofun, nofun⟩

/-- Without a marker's value a type has its zero. -/
private theorem read_zero (t : FieldType) :
    ∃ d, readAs t.storageType ((Default.zero t).expression t).tokens = some d ∧ Denotes t .null d := by
  cases t with
  | primitive p =>
    have present : (FieldType.primitive p).isNullable = false :=
      (FieldType.isNullable_eq_false_iff _).mpr ⟨p, rfl⟩
    obtain ⟨d, read, means⟩ := read_primitive_zero p
    rw [tokens_expression (isWritten_zero p), readAs_storageType, readPlain_primitive _ rfl, read]
    unfold Denotes
    rw [present]
    exact ⟨d, rfl, means⟩
  | _ => exact ⟨.absent, rfl, .inl ⟨rfl, rfl⟩⟩

private theorem read_marker (fits : Fits t m) :
    ∃ d, readAs t.storageType ((Default.ofMarker m t).expression t).tokens = some d ∧ Denotes t m d := by
  by_cases null : m = .null
  · rw [null]
    exact read_zero t
  · obtain ⟨written, d, read, means⟩ := read_plainExpression fits null
    rw [tokens_expression written, readAs_storageType, read]
    unfold Denotes
    cases t.isNullable with
    | true => exact ⟨.present d, rfl, .inr ⟨null, d, rfl, means⟩⟩
    | false => exact ⟨d, rfl, means⟩

end Markers

/-- The expression of a marker that fits its type is read as the value of the marker. A number of a type of real
numbers is spelled as the absolute value of its double, behind a minus if it has one, and an array or an object as
a macro that stops the compilation. -/
theorem markers_are_spelled (t : FieldType) :
    (∀ m, Fits t m → ∃ d, readAs t.storageType ((Default.ofMarker m t).expression t).tokens = some d ∧
      Denotes t m d) ∧
    (∀ p n, t.primitive? = some p → p.isFloat = true → ∃ x text, n.toDouble = .finite x ∧
      Literals.real? .double text = some (.finite x.abs) ∧
      ((Default.ofMarker (.number n) t).expression t).tokens =
        let plain := (if x.negative then [.mark '-' false] else []) ++ [.literal text]
        if t.isNullable then [.word "Some", .group .parenthesis plain] else plain) ∧
    ∀ m, (∃ items, m = .array items) ∨ (∃ entries, m = .object entries) →
      ∃ text message, Literals.string? text = some message ∧
        ((Default.ofMarker m t).expression t).tokens =
          [.word "compile_error", .mark '!' false, .group .parenthesis [.literal text]] := by
  refine ⟨fun m fits => read_marker fits, fun p n primitive float => ?_, fun m given => ?_⟩
  · obtain ⟨x, rounded, same⟩ := ofMarker_real primitive float n
    refine ⟨x, Default.realText x, rounded, real?_realText_double x, ?_⟩
    have written : IsWritten (.real x) := ⟨nofun, nofun⟩
    rw [same, tokens_expression written, Default.plainExpression]
    cases x.negative <;> rfl
  · obtain ⟨items, rfl⟩ | ⟨entries, rfl⟩ := given
    · exact ⟨_, _, Literals.string?_stringLiteral _, rfl⟩
    · exact ⟨_, _, Literals.string?_stringLiteral _, rfl⟩

/-- The largest number that a marker can be, a negative zero, and a list. -/
theorem markers_are_spelled_extremes :
    (∃ m, m = .number (.whole ⟨0xffffffffffffffff, by decide, by decide⟩) ∧ Fits (.boxed .u64) m ∧
      ∃ d, readAs (FieldType.boxed .u64).storageType
          ((Default.ofMarker m (.boxed .u64)).expression (.boxed .u64)).tokens = some d ∧
        Denotes (.boxed .u64) m d) ∧
    ((FieldType.primitive .f32).primitive? = some .f32 ∧ Primitive.f32.isFloat = true ∧
      ∃ x text, (Json.Number.real Double.zero.neg).toDouble = .finite x ∧
        Literals.real? .double text = some (.finite x.abs) ∧
        ((Default.ofMarker (.number (.real Double.zero.neg)) (.primitive .f32)).expression
            (.primitive .f32)).tokens =
          let plain := (if x.negative then [.mark '-' false] else []) ++ [.literal text]
          if (FieldType.primitive .f32).isNullable then [.word "Some", .group .parenthesis plain]
          else plain) ∧
    ∃ text message, Literals.string? text = some message ∧
      ((Default.ofMarker (.array []) .string).expression .string).tokens =
        [.word "compile_error", .mark '!' false, .group .parenthesis [.literal text]] := by
  have fits : Fits (.boxed .u64) (.number (.whole ⟨0xffffffffffffffff, by decide, by decide⟩)) :=
    ⟨.u64, rfl, .inr ⟨_, rfl, by decide⟩⟩
  exact ⟨⟨_, rfl, fits, (markers_are_spelled (.boxed .u64)).1 _ fits⟩,
    ⟨rfl, rfl, (markers_are_spelled (.primitive .f32)).2.1 .f32 (.real Double.zero.neg) rfl rfl⟩,
    (markers_are_spelled .string).2.2 (.array []) (.inl ⟨[], rfl⟩)⟩

end Declaration

end ScreenNavigation
