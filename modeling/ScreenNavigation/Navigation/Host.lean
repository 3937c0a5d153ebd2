import ScreenNavigation.Navigation.Screens

/-!
Contexts that start screens. A request goes to the journal of the context that was asked, and to no
other place.
-/
namespace ScreenNavigation.Navigation

open Extras (ExtrasFault)

/-- All contexts at one moment: a launcher, which is no screen, and two screens. -/
structure Host where
  launcher : List Started
  detail : Detail
  counter : Counter

inductive Caller where
  | launcher
  | detail
  | counter
  deriving DecidableEq, Repr

def Caller.isScreen : Caller → Bool
  | .launcher => false
  | .detail => true
  | .counter => true

namespace Host

def initial : Host := ⟨[], .initial, .initial⟩

def journal (h : Host) : Caller → List Started
  | .launcher => h.launcher
  | .detail => h.detail.journal
  | .counter => h.counter.journal

/-- Appends a request to a journal. -/
def record (h : Host) (c : Caller) (r : Started) : Host :=
  match c with
  | .launcher => { h with launcher := h.launcher ++ [r] }
  | .detail => { h with detail := { h.detail with journal := h.detail.journal ++ [r] } }
  | .counter => { h with counter := { h.counter with journal := h.counter.journal ++ [r] } }

/-- The host with empty journals. -/
def forget (h : Host) : Host :=
  ⟨[], { h.detail with journal := [] }, { h.counter with journal := [] }⟩

/-- Starts the screen of a payload; a caller that is no screen asks for a new task. A payload that
could not be made starts nothing. -/
def start (h : Host) (payload : Except ExtrasFault Payload) (c : Caller) (options : Option Extras)
    (requestCode : Option Int) : Except ExtrasFault Host := do
  let p ← payload
  return h.record c ⟨if c.isScreen then p else p.addFlags .newTask, requestCode, options⟩

end Host

end ScreenNavigation.Navigation
