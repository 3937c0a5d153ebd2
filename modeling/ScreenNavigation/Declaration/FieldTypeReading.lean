import ScreenNavigation.Declaration.FieldType
import ScreenNavigation.Json.Reading

/-!
Reading field types from JSON. A type is an object whose entry `kind` names its form, or a list
that starts with that name; what else it holds is looked at once the form is known.
-/
namespace ScreenNavigation.Declaration

open Json

inductive Kind where
  | primitive
  | boxed
  | string
  | serializable
  | array
  deriving DecidableEq, Repr

namespace Kind

def all : List Kind := [primitive, boxed, string, serializable, array]

def name : Kind → String
  | primitive => "primitive"
  | boxed => "boxed"
  | string => "string"
  | serializable => "serializable"
  | array => "array"

/-- The name of the form in messages. -/
def title : Kind → String
  | primitive => "Primitive"
  | boxed => "Boxed"
  | string => "String"
  | serializable => "Serializable"
  | array => "Array"

/-- The entry that completes a form. -/
def field? : Kind → Option String
  | primitive => some "primitive"
  | boxed => some "primitive"
  | string => none
  | serializable => some "path"
  | array => some "element"

def ofName (s : String) : Except Cause Kind :=
  match all.find? (·.name == s) with
  | some k => .ok k
  | none => .error (.unknownVariant s (all.map name))

end Kind

namespace FieldType

private def kindKey : String := "kind"

private def typeDescription : String := "internally tagged enum DeclaredType"

private def kindDescription : String := "variant identifier"

private def primitiveOfName (s : String) : Except Cause Primitive :=
  match Primitive.ofName? s with
  | some p => .ok p
  | none => .error (.unknownVariant s (Primitive.all.map Primitive.name))

/-- A primitive is named by a string, or by the only key of an object without a value. -/
private def primitiveOf : Value → Except Cause Primitive
  | .string s => primitiveOfName s
  | .object [(k, v)] => do
    let p ← primitiveOfName k
    match v with
    | .null => pure p
    | .object [] => pure p
    | other => throw (.wrongType (.ofValue other) "unit")
  | .object _ => .error (.wrongValue .map "map with a single key")
  | other => .error (.wrongType (.ofValue other) "string or map")

private def pathOf : Value → Except Cause TypePath
  | .string s =>
    match TypePath.parse s with
    | .ok p => .ok p
    | .error f => .error (.other ("invalid type path '" ++ s ++ "': " ++ f.message))
  | other => .error (.wrongType (.ofValue other) "a string")

/-- The one entry of a form; a second one with its key is an error once the first has been read. -/
private def entryOf {α : Type} (key : String) (read : Value → Except Cause α) :
    Option α → List (String × Value) → Except Cause α
  | some a, [] => .ok a
  | none, [] => .error (.missingField key)
  | found, (k, v) :: rest => do
    if k = key then
      match found with
      | some _ => throw (.duplicateField key)
      | none => entryOf key read (some (← read v)) rest
    else entryOf key read found rest

private def elements (n : Nat) : String :=
  toString n ++ (if n = 1 then " element" else " elements") ++ " in sequence"

/-- Completes a form from what stands beside its name. -/
private def completed {α : Type} (kind : Kind) (key : String) (read : Value → Except Cause α) :
    Value → Except Cause α
  | .object entries => entryOf key read none entries
  | .array [] =>
    .error (.wrongLength 0 ("struct variant DeclaredType::" ++ kind.title ++ " with 1 element"))
  | .array (v :: rest) => do
    let a ← read v
    if rest.isEmpty then pure a else throw (.wrongLength (rest.length + 1) (elements 1))
  | other => .error (.wrongType (.ofValue other) typeDescription)

private def withoutContent : Value → Except Cause Unit
  | .array (_ :: rest) => .error (.wrongLength (rest.length + 1) (elements 0))
  | _ => .ok ()

/-- The form by name or, inside another type, also by number. -/
private def kindOf (numbered : Bool) : Value → Except Cause Kind
  | .string s => Kind.ofName s
  | .number (.whole n) =>
    if numbered && 0 ≤ n.value then
      match Kind.all[n.value.toNat]? with
      | some k => .ok k
      | none => .error (.wrongValue (.whole n.value) "variant index 0 <= i < 5")
    else .error (.wrongType (.whole n.value) kindDescription)
  | other => .error (.wrongType (.ofValue other) kindDescription)

/-- The name of the form among the entries, and the entries that are left. -/
private def splitKind (numbered : Bool) (found : Option Kind) (others : List (String × Value)) :
    List (String × Value) → Except Cause (Kind × Value)
  | [] =>
    match found with
    | some k => .ok (k, .object others.reverse)
    | none => .error (.missingField kindKey)
  | (k, v) :: rest => do
    if k = kindKey then
      if found.isSome then throw (.duplicateField kindKey)
      splitKind numbered (some (← kindOf numbered v)) others rest
    else splitKind numbered found ((k, v) :: others) rest

private def parts (numbered : Bool) : Value → Except Cause (Kind × Value)
  | .object entries => splitKind numbered none [] entries
  | .array [] => .error (.missingField kindKey)
  | .array (v :: rest) => do return (← kindOf numbered v, .array rest)
  | other => .error (.wrongType (.ofValue other) typeDescription)

mutual

/-- How deep lists and objects nest in a value. -/
private def nesting : Value → Nat
  | .array items => nestingItems items + 1
  | .object entries => nestingEntries entries + 1
  | _ => 0

private def nestingItems : List Value → Nat
  | [] => 0
  | v :: rest => max (nesting v) (nestingItems rest)

private def nestingEntries : List (String × Value) → Nat
  | [] => 0
  | (_, v) :: rest => max (nesting v) (nestingEntries rest)

end

/-- The type of a form with its content; elements of arrays nest at most `depth` deep. -/
private def ofParts (depth : Nat) (kind : Kind) (content : Value) : Except Cause FieldType :=
  match kind with
  | .primitive => primitive <$> completed kind "primitive" primitiveOf content
  | .boxed => boxed <$> completed kind "primitive" primitiveOf content
  | .string => do
    withoutContent content
    return string
  | .serializable => serializable <$> completed kind "path" pathOf content
  | .array =>
    match depth with
    | 0 => .error .tooDeep
    | depth + 1 =>
      array <$> completed kind "element" (fun v => do
        let (kind, content) ← parts true v
        ofParts depth kind content) content

/-- Reads a value as a type. -/
def ofValue (v : Value) : Except Cause FieldType := do
  let (kind, content) ← parts false v
  ofParts (nesting v) kind content

private def lift {α : Type} : Except Cause α → Reader α
  | .ok a => pure a
  | .error cause => Reader.reject cause

private def readKind : Reader Kind := Reader.placed do
  let s ← Reader.string kindDescription
  lift (Kind.ofName s)

private def readEntry (key : String) (state : Option Kind × List (String × Value)) :
    Reader (Option Kind × List (String × Value)) := do
  if key = kindKey then
    if state.1.isSome then Reader.reject (.duplicateField kindKey)
    else
      let k ← Reader.entryValue key readKind
      pure (some k, state.2)
  else
    let v ← Reader.entryValue key Reader.written
    pure (state.1, (key, v) :: state.2)

/-- Reads a type from a text: the name of the form where it stands, the rest at the end. -/
def reader : Reader FieldType := do
  let (kind, content) ← Reader.listOrObject typeDescription
    (do
      match ← Reader.element? 0 readKind with
      | none => Reader.reject (.missingField kindKey)
      | some k => return (k, Value.array (← elementsAfter 1)))
    (do
      match ← Reader.entries readEntry (none, []) with
      | (some k, others) => pure (k, Value.object others.reverse)
      | (none, _) => Reader.reject (.missingField kindKey))
  lift (ofParts (nesting content) kind content)
where
  elementsAfter (index : Nat) : Reader (List Value) := do
    rest index ((← Reader.remaining) + 1)
  rest (index : Nat) : Nat → Reader (List Value)
    | 0 => pure []
    | fuel + 1 => do
      match ← Reader.element? index Reader.written with
      | some v => return v :: (← rest (index + 1) fuel)
      | none => pure []

end FieldType

end ScreenNavigation.Declaration
