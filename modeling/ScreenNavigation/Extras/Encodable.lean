import ScreenNavigation.Json.Fault

/-!
Values on their way into extras, in the order in which they present their parts. A value is checked
for floats without a JSON form before it is converted, so conversion never has to invent one.
-/
namespace ScreenNavigation.Extras

open Decimal Json

/-- Sequences, tuples and tuple structures are all lists. -/
inductive Encodable where
  | bool (b : Bool)
  | whole (n : Int)
  | single (x : Extended .single)
  | double (x : Extended .double)
  | char (c : Char)
  | text (s : String)
  | bytes (bs : List UInt8)
  | absent
  | present (v : Encodable)
  | unit
  | unitStructure
  | variant (name : String)
  | wrapped (v : Encodable)
  | wrappedVariant (name : String) (v : Encodable)
  | list (items : List Encodable)
  | listVariant (name : String) (items : List Encodable)
  | map (entries : List (Encodable × Encodable))
  | record (fields : List (String × Encodable))
  | recordVariant (name : String) (fields : List (String × Encodable))
  /-- A value that refuses to be encoded. -/
  | refused (message : String)
  deriving Inhabited

namespace Encodable

private def finiteFault? {f : Format} (x : Extended f) : Option Cause :=
  match x with
  | .finite _ => none
  | _ => some (.notFinite (x.write .plain))

mutual

/-- The first part that is no finite float, or refuses to be encoded. -/
def fault? : Encodable → Option Cause
  | .single x => finiteFault? x
  | .double x => finiteFault? x
  | .present v => v.fault?
  | .wrapped v => v.fault?
  | .wrappedVariant _ v => v.fault?
  | .list items => itemsFault? items
  | .listVariant _ items => itemsFault? items
  | .map entries => entriesFault? entries
  | .record fields => fieldsFault? fields
  | .recordVariant _ fields => fieldsFault? fields
  | .refused message => some (.other message)
  | _ => none

def itemsFault? : List Encodable → Option Cause
  | [] => none
  | v :: rest => v.fault? <|> itemsFault? rest

def entriesFault? : List (Encodable × Encodable) → Option Cause
  | [] => none
  | (k, v) :: rest => k.fault? <|> v.fault? <|> entriesFault? rest

def fieldsFault? : List (String × Encodable) → Option Cause
  | [] => none
  | (_, v) :: rest => v.fault? <|> fieldsFault? rest

end

private def keyOfFloat {f : Format} (style : Style) : Extended f → Except Cause String
  | .finite x => .ok (x.write style)
  | _ => .error .floatKey

/-- The text of a value that stands as the key of a map. -/
def key : Encodable → Except Cause String
  | .bool b => .ok (toString b)
  | .whole n => .ok (toString n)
  | .single x => keyOfFloat .jsonSingle x
  | .double x => keyOfFloat .json x
  | .char c => .ok c.toString
  | .text s => .ok s
  | .variant name => .ok name
  | .wrapped v => v.key
  | .refused message => .error (.other message)
  | _ => .error .keyNotString

private def ofDouble : Extended .double → Value
  | .finite x => .number (.real x)
  | _ => .null

private def byte (b : UInt8) : Whole :=
  ⟨b.toNat, by omega, by have := b.toNat_lt; omega⟩

private def tagged (name : String) (v : Value) : Value := .object [(name, v)]

mutual

/-- The JSON value; floats without a JSON form become null here. -/
def toJson : Encodable → Except Cause Value
  | .bool b => .ok (.bool b)
  | .whole n =>
    match Number.ofInt? n with
    | some k => .ok (.number k)
    | none => .error .numberRange
  | .single x => .ok (ofDouble (x.convert .double))
  | .double x => .ok (ofDouble x)
  | .char c => .ok (.string c.toString)
  | .text s => .ok (.string s)
  | .bytes bs => .ok (.array (bs.map fun b => .number (.whole (byte b))))
  | .absent => .ok .null
  | .present v => v.toJson
  | .unit => .ok .null
  | .unitStructure => .ok .null
  | .variant name => .ok (.string name)
  | .wrapped v => v.toJson
  | .wrappedVariant name v => tagged name <$> v.toJson
  | .list items => .array <$> itemsToJson items
  | .listVariant name items => (tagged name <| .array ·) <$> itemsToJson items
  | .map entries => .object <$> entriesToJson [] entries
  | .record fields => .object <$> fieldsToJson [] fields
  | .recordVariant name fields => (tagged name <| .object ·) <$> fieldsToJson [] fields
  | .refused message => .error (.other message)

def itemsToJson : List Encodable → Except Cause (List Value)
  | [] => .ok []
  | v :: rest => do
    let w ← v.toJson
    return w :: (← itemsToJson rest)

/-- A repeated key keeps its place and takes the later value. -/
def entriesToJson (written : List (String × Value)) :
    List (Encodable × Encodable) → Except Cause (List (String × Value))
  | [] => .ok written
  | (k, v) :: rest => do
    let name ← k.key
    let w ← v.toJson
    entriesToJson (insertEntry name w written) rest

def fieldsToJson (written : List (String × Value)) :
    List (String × Encodable) → Except Cause (List (String × Value))
  | [] => .ok written
  | (name, v) :: rest => do
    let w ← v.toJson
    fieldsToJson (insertEntry name w written) rest

end

mutual

/-- A JSON value as a value to encode. -/
def ofValue : Value → Encodable
  | .null => .unit
  | .bool b => .bool b
  | .number (.whole n) => .whole n.value
  | .number (.real x) => .double (.finite x)
  | .string s => .text s
  | .array items => .list (ofItems items)
  | .object entries => .map (ofEntries entries)

def ofItems : List Value → List Encodable
  | [] => []
  | v :: rest => ofValue v :: ofItems rest

def ofEntries : List (String × Value) → List (Encodable × Encodable)
  | [] => []
  | (k, v) :: rest => (.text k, ofValue v) :: ofEntries rest

end

/-- The value that is stored, or why the value has none. -/
def encode (v : Encodable) : Except Cause Value :=
  match v.fault? with
  | some cause => .error cause
  | none => v.toJson

end Encodable

end ScreenNavigation.Extras
