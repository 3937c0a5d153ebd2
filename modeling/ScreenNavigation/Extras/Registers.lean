import ScreenNavigation.Extras.Register

/-!
Several extras at once, each in a register of its own, and the operations on them. An operation that
fails is passed over, and the next one finds the registers it found.
-/
namespace ScreenNavigation.Extras

open Json

/-- Extras by the names of their registers. -/
abbrev Registers := String → Extras

namespace Registers

def empty : Registers := fun _ => .empty

def set (rs : Registers) (name : String) (e : Extras) : Registers :=
  fun other => if other = name then e else rs other

@[simp]
theorem set_self (rs : Registers) (name : String) (e : Extras) : rs.set name e name = e := if_pos rfl

theorem set_of_ne (rs : Registers) {name other : String} (h : other ≠ name) (e : Extras) :
    rs.set name e other = rs other := if_neg h

theorem set_same (rs : Registers) (name : String) : rs.set name (rs name) = rs := by
  funext other
  by_cases same : other = name
  · rw [same, set_self]
  · exact set_of_ne rs same _

end Registers

/-- An operation on the register `on`. -/
inductive Operation where
  | new (on : String)
  | put (on key : String) (v : Encodable)
  | remove (on key : String)
  /-- Copies the entries of another register in. -/
  | putAll (on other : String)
  /-- Replaces the register by the entries of a JSON object. -/
  | load (on text : String)

inductive OperationFault where
  | put (f : ExtrasFault)
  | load (f : Fault)

namespace Operation

/-- The register that the operation is on. -/
def on : Operation → String
  | .new name => name
  | .put name _ _ => name
  | .remove name _ => name
  | .putAll name _ => name
  | .load name _ => name

/-- Performs the operation; only a removal gives a value back. -/
def perform (op : Operation) : EStateM OperationFault Registers (Option Value) := fun rs =>
  match op with
  | .new on => .ok none (rs.set on .empty)
  | .put on key v =>
    match (rs on).put key v with
    | .ok e => .ok none (rs.set on e)
    | .error f => .error (.put f) rs
  | .remove on key =>
    let (e, v) := (rs on).remove key
    .ok v (rs.set on e)
  | .putAll on other => .ok none (rs.set on ((rs on).putAll (rs other)))
  | .load on text =>
    match Extras.read text with
    | .ok e => .ok none (rs.set on e)
    | .error f => .error (.load f) rs

/-- Storing succeeds exactly for values that can be encoded. -/
theorem perform_put (name key : String) (v : Encodable) (rs : Registers) :
    (Operation.put name key v).perform rs =
      match v.encode with
      | .ok w => .ok none (rs.set name ((rs name).insert key w))
      | .error cause => .error (.put (.encode key cause)) rs := by
  rw [perform, Extras.put]
  cases v.encode <;> rfl

/-- The registers after the operation, whether it succeeds or fails. -/
def after (op : Operation) (rs : Registers) : Registers :=
  match op.perform rs with
  | .ok _ rs => rs
  | .error _ rs => rs

end Operation

/-- The registers after operations one by one. -/
def Registers.run (rs : Registers) (ops : List Operation) : Registers :=
  ops.foldl (fun rs op => op.after rs) rs

@[simp]
theorem Registers.run_nil (rs : Registers) : rs.run [] = rs := rfl

@[simp]
theorem Registers.run_cons (rs : Registers) (op : Operation) (ops : List Operation) :
    rs.run (op :: ops) = (op.after rs).run ops := rfl

end ScreenNavigation.Extras
