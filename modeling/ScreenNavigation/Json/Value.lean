import ScreenNavigation.Decimal.Written

/-!
JSON values. Objects keep their entries in order, and numbers are whole within 64 bits or finite
floating-point numbers, so every value has a text.
-/
namespace ScreenNavigation.Json

open Decimal

/-- The whole numbers that fit into a signed or an unsigned word of 64 bits. -/
structure Whole where
  value : Int
  lower : -0x8000000000000000 ≤ value
  upper : value < 0x10000000000000000
  deriving DecidableEq, Repr

def Whole.ofInt? (n : Int) : Option Whole :=
  if h : -0x8000000000000000 ≤ n ∧ n < 0x10000000000000000 then some ⟨n, h.1, h.2⟩ else none

inductive Number where
  | whole (n : Whole)
  | real (x : Double)
  deriving DecidableEq, Repr

inductive Value where
  | null
  | bool (b : Bool)
  | number (n : Number)
  | string (s : String)
  | array (items : List Value)
  | object (entries : List (String × Value))
  deriving Repr, Inhabited

namespace Number

def ofInt? (n : Int) : Option Number := (Whole.ofInt? n).map .whole

def write : Number → String
  | .whole n => toString n.value
  | .real x => x.write .json

/-- Equality of stored numbers: a whole number never equals a real one. -/
def same : Number → Number → Bool
  | .whole m, .whole n => m == n
  | .real x, .real y => x.sameValue y
  | _, _ => false

/-- The nearest double; a double is itself. -/
def toDouble : Number → Extended .double
  | .whole n => Format.double.round (n.value < 0) ⟨n.value.natAbs, 1⟩
  | .real x => .finite x

end Number

def hexDigit (n : Nat) : Char := (Nat.toDigits 16 n).headD '0'

def escape (c : Char) : String :=
  if c = '\x22' then "\\\""
  else if c = '\\' then "\\\\"
  else if c = '\n' then "\\n"
  else if c = '\r' then "\\r"
  else if c = '\t' then "\\t"
  else if c.toNat = 8 then "\\b"
  else if c.toNat = 12 then "\\f"
  else if c.toNat < 0x20 then
    "\\u00" ++ String.ofList [hexDigit (c.toNat / 16), hexDigit (c.toNat % 16)]
  else c.toString

/-- A JSON string: quotation marks, backslashes and controls are escaped. -/
def writeString (s : String) : String := "\"" ++ String.join (s.toList.map escape) ++ "\""

namespace Value

mutual

/-- The compact text, without blanks. -/
def write : Value → String
  | .null => "null"
  | .bool b => toString b
  | .number n => n.write
  | .string s => writeString s
  | .array items => "[" ++ String.intercalate "," (writeItems items) ++ "]"
  | .object entries => "\x7b" ++ String.intercalate "," (writeEntries entries) ++ "\x7d"

def writeItems : List Value → List String
  | [] => []
  | v :: rest => v.write :: writeItems rest

def writeEntries : List (String × Value) → List String
  | [] => []
  | (k, v) :: rest => (writeString k ++ ":" ++ v.write) :: writeEntries rest

end

mutual

/-- Equality of stored values: the order of an object's entries is ignored. -/
def same : Value → Value → Bool
  | .null, .null => true
  | .bool a, .bool b => a == b
  | .number m, .number n => m.same n
  | .string s, .string t => s == t
  | .array xs, .array ys => sameItems xs ys
  | .object es, .object fs => es.length == fs.length && sameEntries es fs
  | _, _ => false

def sameItems : List Value → List Value → Bool
  | [], [] => true
  | x :: xs, y :: ys => x.same y && sameItems xs ys
  | _, _ => false

/-- Every entry has a counterpart of the same key. -/
def sameEntries : List (String × Value) → List (String × Value) → Bool
  | [], _ => true
  | (k, v) :: rest, fs =>
    (match fs.find? (·.1 == k) with
      | some (_, w) => v.same w
      | none => false) && sameEntries rest fs

end

end Value

/-- Stores a value under a key: an old entry keeps its place, a new one goes to the end. -/
def insertEntry (key : String) (value : Value) : List (String × Value) → List (String × Value)
  | [] => [(key, value)]
  | (k, v) :: rest => if k = key then (k, value) :: rest else (k, v) :: insertEntry key value rest

section Insertion

variable {key : String} {es : List (String × Value)}

theorem insertEntry_of_notMem (h : key ∉ es.map (·.1)) (v : Value) :
    insertEntry key v es = es ++ [(key, v)] := by
  induction es with
  | nil => rfl
  | cons first rest ih =>
    obtain ⟨k, w⟩ := first
    rw [List.map_cons, List.mem_cons, not_or] at h
    rw [insertEntry, if_neg (Ne.symm h.1), ih h.2, List.cons_append]

theorem keys_insertEntry_of_mem (h : key ∈ es.map (·.1)) (v : Value) :
    (insertEntry key v es).map (·.1) = es.map (·.1) := by
  induction es with
  | nil => cases h
  | cons first rest ih =>
    obtain ⟨k, w⟩ := first
    by_cases same : k = key
    · rw [insertEntry, if_pos same, List.map_cons, List.map_cons, same]
    · have later : key ∈ rest.map (·.1) := (List.mem_cons.mp h).resolve_left (Ne.symm same)
      rw [insertEntry, if_neg same, List.map_cons, List.map_cons, ih later]

theorem nodup_keys_insertEntry (h : (es.map (·.1)).Nodup) (key : String) (v : Value) :
    ((insertEntry key v es).map (·.1)).Nodup := by
  by_cases old : key ∈ es.map (·.1)
  · rwa [keys_insertEntry_of_mem old]
  · rw [insertEntry_of_notMem old, List.map_append, List.nodup_append]
    refine ⟨h, by simp, fun k hk l hl same => old ?_⟩
    have own : k = key := same.trans (List.mem_singleton.mp hl)
    rwa [← own]

end Insertion

namespace Value

mutual

/-- The value in which a repeated key of an object holds its last value at its first place. -/
def distinct : Value → Value
  | .array items => .array (distinctItems items)
  | .object entries => .object (distinctEntries entries [])
  | v => v

def distinctItems : List Value → List Value
  | [] => []
  | v :: rest => v.distinct :: distinctItems rest

def distinctEntries : List (String × Value) → List (String × Value) → List (String × Value)
  | [], kept => kept
  | (k, v) :: rest, kept => distinctEntries rest (insertEntry k v.distinct kept)

end

end Value

end ScreenNavigation.Json
