import ScreenNavigation.Extras.Register

/-!
Requests to show a screen: the screen they target, the extras they carry, and launch flags.
-/
namespace ScreenNavigation.Navigation

/-- A set of launch flags. -/
structure LaunchFlags where
  bits : UInt32
  deriving DecidableEq, Repr

namespace LaunchFlags

def none : LaunchFlags := ⟨0⟩

/-- The screen starts in a new task; needed when the caller is no screen. -/
def newTask : LaunchFlags := ⟨1⟩

def clearTop : LaunchFlags := ⟨2⟩

def singleTop : LaunchFlags := ⟨4⟩

def union (a b : LaunchFlags) : LaunchFlags := ⟨a.bits ||| b.bits⟩

def contains (a b : LaunchFlags) : Bool := a.bits &&& b.bits == b.bits

def isEmpty (a : LaunchFlags) : Bool := a.bits == 0

end LaunchFlags

/-- The screens there are. -/
inductive Target where
  | detail
  | counter
  deriving DecidableEq, Repr

def Target.name : Target → String
  | .detail => "screen_starter_gen::tests::screens::Detail"
  | .counter => "screen_starter_gen::tests::screens::Counter"

structure Payload where
  target : Target
  extras : Extras
  flags : LaunchFlags

namespace Payload

def forScreen (t : Target) : Payload := ⟨t, .empty, .none⟩

def putExtra (p : Payload) (key : String) (v : Extras.Encodable) :
    Except Extras.ExtrasFault Payload := do
  return { p with extras := ← p.extras.put key v }

def addFlags (p : Payload) (f : LaunchFlags) : Payload := { p with flags := p.flags.union f }

def same (p q : Payload) : Bool :=
  p.target == q.target && p.extras.same q.extras && p.flags == q.flags

end Payload

end ScreenNavigation.Navigation
