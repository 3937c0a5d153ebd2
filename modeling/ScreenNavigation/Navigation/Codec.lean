import ScreenNavigation.Navigation.Payload

/-!
How the values of a screen travel: they are written into extras one after the other and read back
from them. A value that cannot be encoded stops the writing, and what was written before it stays.
-/
namespace ScreenNavigation.Navigation

open Extras (Shape ExtrasFault)

/-- Writing into extras. -/
abbrev Writing := EStateM ExtrasFault Extras

namespace Writing

/-- Writes a value of a shape under a key. -/
def value (s : Shape) (key : String) (v : s.Carrier) : Writing Unit := fun e =>
  match e.put key (s.encodable v) with
  | .ok e => .ok () e
  | .error f => .error f e

/-- Writes a value that may be absent; an absent one is left out. -/
def optional (s : Shape) (key : String) : Option s.Carrier → Writing Unit
  | none => pure ()
  | some v => value s key v

end Writing

/-- The values `V` of a screen, as its builder encodes and decodes them. -/
structure Codec (V : Type) where
  target : Target
  write : V → Writing Unit
  read : Extras → V

namespace Codec

variable {V : Type}

/-- A payload with all values, without flags. -/
def payload (c : Codec V) (v : V) : Except ExtrasFault Payload :=
  match c.write v .empty with
  | .ok _ e => .ok { Payload.forScreen c.target with extras := e }
  | .error f _ => .error f

end Codec

end ScreenNavigation.Navigation
