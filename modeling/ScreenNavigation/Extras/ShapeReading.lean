import ScreenNavigation.Extras.Shape
import ScreenNavigation.Json.Reading

/-!
Reading values of a shape from JSON texts. The text is accepted exactly where the stored value would
be, and a fault has the place at which reading stopped.
-/
namespace ScreenNavigation.Extras.Shape

open Json Json.Reader

private def orReject {α : Type} : Except Cause α → Reader α
  | .ok a => pure a
  | .error cause => reject cause

private def numberAs {α : Type} (s : Shape) (read : Number → Except Cause α) : Reader α := placed do
  orReject (read (← anyNumber s.expectation))

private def readPair {α β : Type} (length : String) (first : Reader α) (second : Reader β) :
    Reader (α × β) := do
  match ← element? 0 first with
  | none => reject (.wrongLength 0 length)
  | some a =>
    match ← element? 1 second with
    | none => reject (.wrongLength 1 length)
    | some b => pure (a, b)

private structure OwnerSlots where
  name : Option String := none
  admin : Option Bool := none

private def ownerSlot (key : String) (s : OwnerSlots) : Reader OwnerSlots := do
  match key, s with
  | "name", ⟨none, _⟩ => return { s with name := some (← entryValue key (string "a string")) }
  | "admin", ⟨_, none⟩ => return { s with admin := some (← entryValue key (Reader.bool "a boolean")) }
  | "name", _ => reject (.duplicateField key)
  | "admin", _ => reject (.duplicateField key)
  | _, _ =>
    entryValue key skipValue
    pure s

private def readOwner : Reader Owner :=
  listOrObject "struct Owner"
    (do
      let (name, admin) ←
        readPair "struct Owner with 2 elements" (string "a string") (Reader.bool "a boolean")
      pure ⟨name, admin⟩)
    (do
      match ← Reader.entries ownerSlot {} with
      | ⟨some name, some admin⟩ => pure ⟨name, admin⟩
      | ⟨none, _⟩ => reject (.missingField "name")
      | ⟨_, none⟩ => reject (.missingField "admin"))

/-- A reader for the values of a shape. -/
def reader : (s : Shape) → Reader s.Carrier
  | bool => Reader.bool "a boolean"
  | integer k => numberAs (integer k) (integerOf k)
  | single => numberAs single (.ok <| singleOf ·)
  | double => numberAs double (.ok <| ·.toDouble)
  | char => placed do
    orReject (charOf (← string "a character"))
  | text => string "a string"
  | owner => readOwner
  | list s => Reader.list "a sequence" (elements s.reader)
  | option s => Reader.option s.reader
  | pair s t => Reader.list (pair s t).expectation
    (readPair (pair s t).expectation s.reader t.reader)
  | map s => object "a map" (Reader.entries (fun key found => do
      return insertSorted key (← entryValue key s.reader) found) [])
  | any => value

/-- Reads a whole text. -/
def read (s : Shape) (text : String) : Except Fault s.Carrier := run s.reader text

end ScreenNavigation.Extras.Shape
