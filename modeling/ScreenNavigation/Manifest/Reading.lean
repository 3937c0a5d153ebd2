import ScreenNavigation.Declaration.FieldTypeReading
import ScreenNavigation.Manifest.Entry

/-!
Reading manifests. A structure is written as an object or, with its entries in order, as a list;
entries that it does not know are stepped over.
-/
namespace ScreenNavigation.Manifest

open Declaration Json Json.Reader

/-- The value of an entry, unless one was read before. -/
private def once {α : Type} (key : String) (slot : Option α) (r : Reader α) : Reader (Option α) :=
  if slot.isSome then reject (.duplicateField key) else some <$> entryValue key r

private def unknown (key : String) : Reader Unit := entryValue key skipValue

private def required {α : Type} (key : String) : Option α → Reader α
  | some a => pure a
  | none => reject (.missingField key)

/-- An element of a list that stands for a structure. -/
private def requiredAt {α : Type} (index : Nat) (whole : String) (r : Reader α) : Reader α := do
  match ← element? index r with
  | some a => pure a
  | none => reject (.wrongLength index whole)

private def orDefaultAt {α : Type} (index : Nat) (default : α) (r : Reader α) : Reader α := do
  return (← element? index r).getD default

private def text : Reader String := string "a string"

private def truth : Reader Bool := bool "a boolean"

private def typePath : Reader TypePath := do
  let s ← text
  match TypePath.parse s with
  | .ok p => pure p
  | .error f => reject (.other ("invalid type path '" ++ s ++ "': " ++ f.message))

/-- A kind is a string, or the only key of an object whose value is null. -/
private def elementKind : Reader ElementKind := do
  match ← valueStart with
  | '\x22' => return .ofName (← string "variant identifier")
  | '\x7b' =>
    let kind ← deeper do
      skip
      let name ← string "variant identifier"
      colon
      within (.key name) (null "unit")
      pure (ElementKind.ofName name)
    match ← token? with
    | some '\x7d' =>
      skip
      pure kind
    | some _ => fail .valueExpected
    | none => fail .endOfObject
  | _ => failNext .valueExpected

private def sequence {α : Type} (r : Reader α) : Reader (List α) := list "a sequence" (elements r)

private structure ClassSlots where
  identity : Option TypePath := none
  package : Option (Option String) := none
  element : Option ElementKind := none
  isAbstract : Option Bool := none
  supertypes : Option (List TypePath) := none

private def classSlot (key : String) (s : ClassSlots) : Reader ClassSlots := do
  match key with
  | "identity" => return { s with identity := ← once key s.identity typePath }
  | "package" => return { s with package := ← once key s.package (option text) }
  | "element" => return { s with element := ← once key s.element elementKind }
  | "abstract" => return { s with isAbstract := ← once key s.isAbstract truth }
  | "supertypes" => return { s with supertypes := ← once key s.supertypes (sequence typePath) }
  | _ =>
    unknown key
    pure s

private def classFromList : Reader ClassEntry := do
  let whole := "struct ClassEntry with 5 elements"
  let identity ← requiredAt 0 whole typePath
  let package ← requiredAt 1 whole (option text)
  let element ← orDefaultAt 2 .type elementKind
  let isAbstract ← orDefaultAt 3 false truth
  let supertypes ← orDefaultAt 4 [] (sequence typePath)
  pure ⟨identity, package, element, isAbstract, supertypes⟩

private def classFromObject : Reader ClassEntry := do
  let s ← entries classSlot {}
  let identity ← required "identity" s.identity
  pure ⟨identity, s.package.join, s.element.getD .type, s.isAbstract.getD false, s.supertypes.getD []⟩

private structure FieldSlots where
  enclosing : Option String := none
  element : Option ElementKind := none
  name : Option String := none
  type : Option FieldType := none
  isPrivate : Option Bool := none
  marker : Option Value := none

private def fieldSlot (key : String) (s : FieldSlots) : Reader FieldSlots := do
  match key with
  | "enclosing" => return { s with enclosing := ← once key s.enclosing text }
  | "element" => return { s with element := ← once key s.element elementKind }
  | "name" => return { s with name := ← once key s.name text }
  | "type" => return { s with type := ← once key s.type FieldType.reader }
  | "private" => return { s with isPrivate := ← once key s.isPrivate truth }
  | "default" => return { s with marker := ← once key s.marker value }
  | _ =>
    unknown key
    pure s

private def fieldFromList : Reader FieldEntry := do
  let whole := "struct FieldEntry with 6 elements"
  let enclosing ← requiredAt 0 whole text
  let element ← orDefaultAt 1 .field elementKind
  let name ← requiredAt 2 whole text
  let type ← requiredAt 3 whole FieldType.reader
  let isPrivate ← orDefaultAt 4 false truth
  let marker ← element? 5 value
  pure ⟨enclosing, element, name, type, isPrivate, marker⟩

private def fieldFromObject : Reader FieldEntry := do
  let s ← entries fieldSlot {}
  let enclosing ← required "enclosing" s.enclosing
  let name ← required "name" s.name
  let type ← required "type" s.type
  pure ⟨enclosing, s.element.getD .field, name, type, s.isPrivate.getD false, s.marker⟩

private def classEntry : Reader ClassEntry :=
  listOrObject "struct ClassEntry" classFromList classFromObject

private def fieldEntry : Reader FieldEntry :=
  listOrObject "struct FieldEntry" fieldFromList fieldFromObject

private structure Slots where
  baseType : Option TypePath := none
  classes : Option (List ClassEntry) := none
  fields : Option (List FieldEntry) := none

private def slot (key : String) (s : Slots) : Reader Slots := do
  match key with
  | "base_type" => return { s with baseType := ← once key s.baseType typePath }
  | "classes" => return { s with classes := ← once key s.classes (sequence classEntry) }
  | "fields" => return { s with fields := ← once key s.fields (sequence fieldEntry) }
  | _ =>
    unknown key
    pure s

private def fromList : Reader Manifest := do
  let baseType ← orDefaultAt 0 defaultBaseType typePath
  let classes ← orDefaultAt 1 [] (sequence classEntry)
  let fields ← orDefaultAt 2 [] (sequence fieldEntry)
  pure ⟨baseType, classes, fields⟩

private def fromObject : Reader Manifest := do
  let s ← entries slot {}
  pure ⟨s.baseType.getD defaultBaseType, s.classes.getD [], s.fields.getD []⟩

def reader : Reader Manifest := listOrObject "struct SymbolManifest" fromList fromObject

/-- Reads the manifest at the front of a text. -/
def read (text : String) : Except Fault Manifest := runFront reader text

/-- The message for a manifest that cannot be read: it names the place inside the document. -/
def faultMessage (f : Fault) : String :=
  "Invalid manifest at '" ++ writePath f.path ++ "': " ++ f.message

end ScreenNavigation.Manifest
