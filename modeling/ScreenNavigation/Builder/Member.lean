import ScreenNavigation.Declaration.Screen

/-!
Members of a generated builder, in the terms of the fields they serve.
-/
namespace ScreenNavigation.Builder

open Declaration

/-- How generated code reaches a field on a screen. -/
inductive Access where
  | direct
  | accessors (setter getter : String)
  deriving DecidableEq, Repr

/-- What a member has to know about one field. -/
structure Binding where
  name : String
  constant : String
  type : FieldType
  default : Default
  access : Access

def Binding.ofField (f : Field) : Binding where
  name := f.name
  constant := f.constant
  type := f.type
  default := f.default
  access := if f.isPrivate then .accessors f.setter f.getter else .direct

inductive ReEntry where
  /-- The payload always replaces the remembered one. -/
  | replace
  /-- The payload replaces the remembered one on request. -/
  | conditional
  deriving DecidableEq, Repr

structure Trigger where
  withOptions : Bool
  forResult : Bool
  deriving DecidableEq, Repr

namespace Trigger

def all : List Trigger := [⟨false, false⟩, ⟨true, false⟩, ⟨false, true⟩, ⟨true, true⟩]

def name (t : Trigger) : String :=
  (if t.forResult then "start_for_result" else "start") ++
    (if t.withOptions then "_with_options" else "")

end Trigger

inductive Member where
  | keyConstant (name key : String)
  | storage (b : Binding)
  | factory (required optional : List Binding)
  | setter (b : Binding)
  | encode (bindings : List Binding)
  | decode (bindings : List Binding)
  | saveState (bindings : List Binding)
  | reEntry (mode : ReEntry)
  | trigger (t : Trigger)

namespace Member

/-- The constant, field or method that the member defines. -/
def itemName : Member → String
  | keyConstant name _ => name
  | storage b => b.name
  | factory _ _ => "builder"
  | setter b => b.name
  | encode _ => "payload"
  | decode _ => "inject"
  | saveState _ => "save_state"
  | reEntry .replace => "process_new_payload"
  | reEntry .conditional => "process_new_payload_with_update"
  | trigger t => t.name

/-- Storage stands in the structure, everything else in the block of its operations. -/
def isStorage : Member → Bool
  | storage _ => true
  | _ => false

def binding? : Member → Option Binding
  | storage b => some b
  | _ => none

end Member

end ScreenNavigation.Builder
