import ScreenNavigation.Extras.Encodable

/-!
The types whose values travel in extras, and how a value of a type is encoded, read from JSON and
written as JSON. Null stands for an absent option inside other values.
-/
namespace ScreenNavigation.Extras

open Decimal Json

inductive IntegerKind where
  | i8
  | i16
  | i32
  | i64
  | u8
  | u16
  | u32
  | u64
  deriving DecidableEq, Repr

namespace IntegerKind

def all : List IntegerKind := [i8, i16, i32, i64, u8, u16, u32, u64]

def name : IntegerKind → String
  | i8 => "i8"
  | i16 => "i16"
  | i32 => "i32"
  | i64 => "i64"
  | u8 => "u8"
  | u16 => "u16"
  | u32 => "u32"
  | u64 => "u64"

def lower : IntegerKind → Int
  | i8 => -0x80
  | i16 => -0x8000
  | i32 => -0x80000000
  | i64 => -0x8000000000000000
  | _ => 0

/-- The least integer too large for the kind. -/
def bound : IntegerKind → Int
  | i8 => 0x80
  | i16 => 0x8000
  | i32 => 0x80000000
  | i64 => 0x8000000000000000
  | u8 => 0x100
  | u16 => 0x10000
  | u32 => 0x100000000
  | u64 => 0x10000000000000000

end IntegerKind

/-- An integer within the range of its kind. -/
structure Integer (k : IntegerKind) where
  value : Int
  lower_le : k.lower ≤ value
  lt_bound : value < k.bound
  deriving DecidableEq, Repr

namespace Integer

def ofInt? (k : IntegerKind) (n : Int) : Option (Integer k) :=
  if h : k.lower ≤ n ∧ n < k.bound then some ⟨n, h.1, h.2⟩ else none

def zero (k : IntegerKind) : Integer k := ⟨0, by cases k <;> decide, by cases k <;> decide⟩

end Integer

/-- A person who owns a screen's subject. -/
structure Owner where
  name : String
  admin : Bool
  deriving DecidableEq, Repr

inductive Shape where
  | bool
  | integer (k : IntegerKind)
  | single
  | double
  | char
  | text
  | owner
  | list (s : Shape)
  | option (s : Shape)
  | pair (s t : Shape)
  /-- Keys are texts, and entries stand in the order of their keys. -/
  | map (s : Shape)
  /-- Any JSON value. -/
  | any
  deriving DecidableEq, Repr

namespace Shape

/-- The values of a shape. -/
@[reducible]
def Carrier : Shape → Type
  | bool => Bool
  | integer k => Integer k
  | single => Extended .single
  | double => Extended .double
  | char => Char
  | text => String
  | owner => Owner
  | list s => List s.Carrier
  | option s => Option s.Carrier
  | pair s t => s.Carrier × t.Carrier
  | map s => List (String × s.Carrier)
  | any => Value

def encodeOwner (o : Owner) : Encodable := .record [("name", .text o.name), ("admin", .bool o.admin)]

/-- How a value presents itself to be encoded. -/
def encodable : (s : Shape) → s.Carrier → Encodable
  | bool, b => .bool b
  | integer _, n => .whole n.value
  | single, x => .single x
  | double, x => .double x
  | char, c => .char c
  | text, t => .text t
  | owner, o => encodeOwner o
  | list s, vs => .list (vs.map s.encodable)
  | option _, none => .absent
  | option s, some v => .present (s.encodable v)
  | pair s t, (v, w) => .list [s.encodable v, t.encodable w]
  | map s, entries => .map (entries.map fun (k, v) => (.text k, s.encodable v))
  | any, v => .ofValue v

/-- What messages say was expected. -/
def expectation : Shape → String
  | bool => "a boolean"
  | integer k => k.name
  | single => "f32"
  | double => "f64"
  | char => "a character"
  | text => "a string"
  | owner => "struct Owner"
  | list _ => "a sequence"
  | option s => s.expectation
  | pair _ _ => "a tuple of size 2"
  | map _ => "a map"
  | any => "any value"

/-- Puts an entry in its place by key; an entry of the same key is replaced. -/
def insertSorted {α : Type} (key : String) (value : α) : List (String × α) → List (String × α)
  | [] => [(key, value)]
  | (k, v) :: rest =>
    if key = k then (key, value) :: rest
    else if key < k then (key, value) :: (k, v) :: rest
    else (k, v) :: insertSorted key value rest

private def fault {α : Type} (cause : Cause) : Except Fault α := .error (.ofCause cause)

private def within {α : Type} (step : Step) (e : Except Fault α) : Except Fault α :=
  e.mapError (·.within step)

private def mismatch {α : Type} (s : Shape) (v : Value) : Except Fault α :=
  fault (.wrongType (.ofValue v) s.expectation)

/-- Reads the items of a list in order; the first fault is reported with its index. -/
def decodeItems {α : Type} (read : Value → Except Fault α) (index : Nat) :
    List Value → Except Fault (List α)
  | [] => .ok []
  | v :: rest => do
    let a ← within (.index index) (read v)
    return a :: (← decodeItems read (index + 1) rest)

/-- Reads the values of a map in their order and sorts them by key. -/
def decodeEntries {α : Type} (read : Value → Except Fault α) (found : List (String × α)) :
    List (String × Value) → Except Fault (List (String × α))
  | [] => .ok found
  | (k, v) :: rest => do
    let a ← within (.key k) (read v)
    decodeEntries read (insertSorted k a found) rest

/-- Two values in a list; `length` describes the whole in messages. -/
private def decodePair {α β : Type} (length : String) (first : Value → Except Fault α)
    (second : Value → Except Fault β) : List Value → Except Fault (α × β)
  | [] => fault (.wrongLength 0 length)
  | v :: rest => do
    let a ← within (.index 0) (first v)
    match rest with
    | [] => fault (.wrongLength 1 length)
    | w :: more =>
      let b ← within (.index 1) (second w)
      if more.isEmpty then return (a, b)
      else fault (.wrongLength (more.length + 2) "fewer elements in array")

private def decodeText : Value → Except Fault String
  | .string s => .ok s
  | v => mismatch text v

private def decodeBool : Value → Except Fault Bool
  | .bool b => .ok b
  | v => mismatch bool v

/-- The fields of an owner among the entries of an object; other entries are ignored. -/
private def ownerFields (name : Option String) (admin : Option Bool) :
    List (String × Value) → Except Fault Owner
  | [] =>
    match name, admin with
    | some n, some a => .ok ⟨n, a⟩
    | none, _ => fault (.missingField "name")
    | _, none => fault (.missingField "admin")
  | (k, v) :: rest => do
    if k = "name" then ownerFields (some (← within (.key k) (decodeText v))) admin rest
    else if k = "admin" then ownerFields name (some (← within (.key k) (decodeBool v))) rest
    else ownerFields name admin rest

private def decodeOwner : Value → Except Fault Owner
  | .array items => do
    let (name, admin) ← decodePair "struct Owner with 2 elements" decodeText decodeBool items
    return ⟨name, admin⟩
  | .object entries => ownerFields none none entries
  | v => mismatch owner v

/-- A number as an integer of a kind, or the fault of the number. -/
def integerOf (k : IntegerKind) : Number → Except Cause (Integer k)
  | .whole n =>
    match Integer.ofInt? k n.value with
    | some i => .ok i
    | none => .error (.wrongValue (.whole n.value) k.name)
  | .real x => .error (.wrongType (.real x) k.name)

/-- The nearest number of single precision. -/
def singleOf : Number → Extended .single
  | .whole n => Format.single.round (n.value < 0) ⟨n.value.natAbs, 1⟩
  | .real x => x.convert .single

/-- A text of one character. -/
def charOf (s : String) : Except Cause Char :=
  match s.toList with
  | [c] => .ok c
  | _ => .error (.wrongValue (.text s) "a character")

private def lift {α : Type} : Except Cause α → Except Fault α
  | .ok a => .ok a
  | .error cause => fault cause

/-- Reads a stored value as a value of the shape. -/
def decode : (s : Shape) → Value → Except Fault s.Carrier
  | bool, v => decodeBool v
  | integer k, .number n => lift (integerOf k n)
  | single, .number n => .ok (singleOf n)
  | double, .number n => .ok n.toDouble
  | char, .string t => lift (charOf t)
  | text, v => decodeText v
  | owner, v => decodeOwner v
  | list s, .array items => decodeItems s.decode 0 items
  | option _, .null => .ok none
  | option s, v => some <$> s.decode v
  | pair s t, .array items => decodePair (pair s t).expectation s.decode t.decode items
  | map s, .object entries => decodeEntries s.decode [] entries
  | any, v => .ok v
  | s, v => mismatch s v

theorem decode_pair {s t : Shape} {v w : Value} {a : s.Carrier} {b : t.Carrier}
    (first : s.decode v = .ok a) (second : t.decode w = .ok b) :
    (pair s t).decode (.array [v, w]) = .ok (a, b) := by
  simp only [decode, decodePair, first, second]
  rfl

/-- A number, or null where JSON has none. -/
private def writeFloat {f : Format} (style : Style) : Extended f → String
  | .finite x => x.write style
  | _ => "null"

/-- The JSON text of a value; single precision keeps its own shortest digits. -/
def write : (s : Shape) → s.Carrier → String
  | bool, b => toString b
  | integer _, n => toString n.value
  | single, x => writeFloat .jsonSingle x
  | double, x => writeFloat .json x
  | char, c => writeString c.toString
  | text, t => writeString t
  | owner, o =>
    "\x7b\"name\":" ++ writeString o.name ++ ",\"admin\":" ++ toString o.admin ++ "\x7d"
  | list s, vs => "[" ++ String.intercalate "," (vs.map s.write) ++ "]"
  | option _, none => "null"
  | option s, some v => s.write v
  | pair s t, (v, w) => "[" ++ s.write v ++ "," ++ t.write w ++ "]"
  | map s, entries =>
    "\x7b" ++ String.intercalate "," (entries.map fun (k, v) => writeString k ++ ":" ++ s.write v) ++
      "\x7d"
  | any, v => v.write

end Shape

end ScreenNavigation.Extras
