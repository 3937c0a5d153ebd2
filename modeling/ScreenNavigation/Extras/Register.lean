import ScreenNavigation.Extras.Shape
import ScreenNavigation.Json.Reading

/-!
Extras: the state that travels with a request, stored as JSON values under keys. Keys keep the order
in which they were first stored, and a null value reads like a missing one.
-/
namespace ScreenNavigation

open Json

/-- Entries of which no two have one key, in the order in which they came. -/
@[ext]
structure Extras where
  entries : List (String × Value)
  distinct : (entries.map (·.1)).Nodup

namespace Extras

inductive ExtrasFault where
  | encode (key : String) (cause : Cause)
  | decode (key : String) (fault : Fault)
  deriving DecidableEq, Repr

def ExtrasFault.message : ExtrasFault → String
  | .encode key cause => "failed to encode extra '" ++ key ++ "': " ++ cause.message
  | .decode key fault =>
    "failed to decode extra '" ++ key ++ "' at path " ++ writePath fault.path ++ ": " ++
      fault.cause.message

def empty : Extras := ⟨[], List.nodup_nil⟩

def find? (e : Extras) (key : String) : Option Value :=
  (e.entries.find? (·.1 == key)).map (·.2)

/-- Stores a JSON value; an old value of the key is replaced where it stands. -/
def insert (e : Extras) (key : String) (v : Value) : Extras :=
  ⟨insertEntry key v e.entries, nodup_keys_insertEntry e.distinct key v⟩

theorem entries_insert (e : Extras) (key : String) (v : Value) :
    (e.insert key v).entries = insertEntry key v e.entries := rfl

/-- Encodes a value and stores it. -/
def put (e : Extras) (key : String) (v : Encodable) : Except ExtrasFault Extras :=
  match v.encode with
  | .ok w => .ok (e.insert key w)
  | .error cause => .error (.encode key cause)

/-- Reads the value of a key; a missing or null value is none. -/
def tryGet (e : Extras) (s : Shape) (key : String) : Except ExtrasFault (Option s.Carrier) :=
  match e.find? key with
  | none => .ok none
  | some .null => .ok none
  | some v =>
    match s.decode v with
    | .ok a => .ok (some a)
    | .error f => .error (.decode key f)

/-- The value of a key, if it has one of the shape. -/
def get? (e : Extras) (s : Shape) (key : String) : Option s.Carrier :=
  match e.tryGet s key with
  | .ok a => a
  | .error _ => none

def getOr (e : Extras) (s : Shape) (key : String) (default : s.Carrier) : s.Carrier :=
  (e.get? s key).getD default

def contains (e : Extras) (key : String) : Bool := e.entries.any (·.1 == key)

/-- Removes a key and gives its value; the others keep their order. -/
def remove (e : Extras) (key : String) : Extras × Option Value :=
  (⟨e.entries.filter (·.1 != key), e.distinct.sublist (List.filter_sublist.map _)⟩, e.find? key)

/-- Stores entries one after the other. -/
def insertAll (e : Extras) (es : List (String × Value)) : Extras :=
  es.foldl (fun e (k, v) => e.insert k v) e

/-- Copies all entries of other extras in, over those with the same keys. -/
def putAll (e other : Extras) : Extras := e.insertAll other.entries

def keys (e : Extras) : List String := e.entries.map (·.1)

theorem nodup_keys (e : Extras) : e.keys.Nodup := e.distinct

def size (e : Extras) : Nat := e.entries.length

def isEmpty (e : Extras) : Bool := e.entries.isEmpty

/-- Equality of entries in any order. -/
def same (e other : Extras) : Bool := (Value.object e.entries).same (.object other.entries)

/-- The JSON text of all entries. -/
def write (e : Extras) : String := (Value.object e.entries).write

def readEntry (key : String) (es : List (String × Value)) :
    Reader (List (String × Value)) := do
  return (key, ← Reader.entryValue key Reader.value) :: es

/-- The entries of a JSON object in the order of its text, with repeated keys. -/
def readEntries (text : String) : Except Fault (List (String × Value)) :=
  List.reverse <$> Reader.run (Reader.object "a map" (Reader.entries readEntry [])) text

/-- Reads extras from the text of a JSON object; of a repeated key the last value counts. -/
def read (text : String) : Except Fault Extras := empty.insertAll <$> readEntries text

end Extras

end ScreenNavigation
