import ScreenNavigation.Navigation.Host

/-!
Launches: calls of the four triggers that every builder has. A trigger without options is the one with
options given none, and only a screen can ask for a result.
-/
namespace ScreenNavigation.Navigation

open Extras (ExtrasFault Integer)

/-- The values of a builder of either kind. -/
inductive BuilderValues where
  | detail (v : DetailValues)
  | counter (v : CounterValues)

def BuilderValues.payload : BuilderValues → Except ExtrasFault Payload
  | detail v => DetailValues.codec.payload v
  | counter v => CounterValues.codec.payload v

/-- A caller that can receive a result. -/
abbrev ScreenCaller := { c : Caller // c.isScreen = true }

inductive Trigger where
  | start (context : Caller)
  | startWithOptions (context : Caller) (options : Option Extras)
  | startForResult (screen : ScreenCaller) (requestCode : Integer .i32)
  | startForResultWithOptions (screen : ScreenCaller) (requestCode : Integer .i32)
    (options : Option Extras)

/-- A call of a trigger of the builder with the name. -/
structure Launch where
  builder : String
  trigger : Trigger

/-- Callers, and builders by their names. -/
structure Stage where
  host : Host
  builders : String → BuilderValues

/-- A call on a stage; one that fails gives the fault of the payload. -/
abbrev Launching := EStateM ExtrasFault Stage Unit

namespace Launching

/-- Encodes the builder, and asks the caller with its payload. -/
def request (builder : String) (c : Caller) (options : Option Extras)
    (requestCode : Option Int) : Launching := fun g =>
  match g.host.start (g.builders builder).payload c options requestCode with
  | .ok h => .ok () { g with host := h }
  | .error f => .error f g

def startWithOptions (builder : String) (context : Caller) (options : Option Extras) : Launching :=
  request builder context options none

def start (builder : String) (context : Caller) : Launching :=
  startWithOptions builder context none

def startForResultWithOptions (builder : String) (screen : ScreenCaller) (code : Integer .i32)
    (options : Option Extras) : Launching :=
  request builder screen options (some code.value)

def startForResult (builder : String) (screen : ScreenCaller) (code : Integer .i32) : Launching :=
  startForResultWithOptions builder screen code none

end Launching

namespace Launch

def perform (l : Launch) : Launching :=
  match l.trigger with
  | .start context => .start l.builder context
  | .startWithOptions context options => .startWithOptions l.builder context options
  | .startForResult screen code => .startForResult l.builder screen code
  | .startForResultWithOptions screen code options =>
    .startForResultWithOptions l.builder screen code options

/-- The stage after the call, whether it succeeds or fails. -/
def after (l : Launch) (g : Stage) : Stage :=
  match l.perform g with
  | .ok _ g => g
  | .error _ g => g

end Launch

/-- The stage after calls one by one. -/
def Stage.run (g : Stage) (ls : List Launch) : Stage := ls.foldl (fun g l => l.after g) g

end ScreenNavigation.Navigation
