import Mathlib.Data.List.Induction
import ScreenNavigation.Navigation.Launch

/-! Launches one after the other. A launch whose payload can be made asks its caller once, any other one
asks nobody, and neither touches what screens hold or what builders are made of. -/
namespace ScreenNavigation.Navigation

open Extras (ExtrasFault)

namespace Launch

/-- Who is asked. -/
def caller (l : Launch) : Caller :=
  match l.trigger with
  | .start context => context
  | .startWithOptions context _ => context
  | .startForResult screen _ => screen
  | .startForResultWithOptions screen _ _ => screen

def options (l : Launch) : Option Extras :=
  match l.trigger with
  | .start _ => none
  | .startWithOptions _ options => options
  | .startForResult _ _ => none
  | .startForResultWithOptions _ _ options => options

def requestCode (l : Launch) : Option Int :=
  match l.trigger with
  | .start _ => none
  | .startWithOptions _ _ => none
  | .startForResult _ code => some code.value
  | .startForResultWithOptions _ code _ => some code.value

/-- What the caller is asked for: the payload with the one flag that a caller needs which is no screen. -/
def request (l : Launch) (p : Payload) : Started where
  payload := { p with flags := if l.caller.isScreen then .none else .newTask }
  requestCode := l.requestCode
  options := l.options

end Launch

section Journals

variable (h : Host) (c d : Caller) (r : Started)

theorem Host.journal_record :
    (h.record c r).journal d = h.journal d ++ if d = c then [r] else [] := by
  cases c <;> cases d <;> simp [record, journal]

theorem Host.forget_record : (h.record c r).forget = h.forget := by
  cases c <;> rfl

end Journals

section Steps

variable {l : Launch} {g : Stage} {p : Payload} {f : ExtrasFault}

private theorem Payload.addFlags_of_plain (plain : p.flags = .none) (flags : LaunchFlags) :
    p.addFlags flags = { p with flags := flags } := by
  rw [addFlags, plain, LaunchFlags.union, LaunchFlags.none, UInt32.zero_or]

/-- Flags are added to a payload only when it is on its way. -/
theorem Codec.flags_payload {V : Type} {c : Codec V} {v : V} (made : c.payload v = .ok p) :
    p.flags = .none := by
  rw [Codec.payload] at made
  split at made
  · cases made
    rfl
  · cases made

theorem BuilderValues.flags_payload {b : BuilderValues} (made : b.payload = .ok p) :
    p.flags = .none := by
  cases b with
  | detail v => exact Codec.flags_payload made
  | counter v => exact Codec.flags_payload made

/-- The four triggers are one request with the values that each of them passes on. -/
theorem Launch.perform_eq (l : Launch) :
    l.perform = Launching.request l.builder l.caller l.options l.requestCode := by
  obtain ⟨builder, trigger⟩ := l
  cases trigger <;> rfl

theorem Launch.perform_ok (made : (g.builders l.builder).payload = .ok p) :
    l.perform g = .ok () { g with host := g.host.record l.caller (l.request p) } := by
  have flags : (if l.caller.isScreen then p else p.addFlags .newTask) =
      { p with flags := if l.caller.isScreen then .none else .newTask } := by
    have plain := BuilderValues.flags_payload made
    cases l.caller.isScreen with
    | true => rw [if_pos rfl, if_pos rfl, ← plain]
    | false => exact Payload.addFlags_of_plain plain .newTask
  have started : g.host.start (g.builders l.builder).payload l.caller l.options l.requestCode =
      .ok (g.host.record l.caller (l.request p)) := by
    rw [Host.start, made, Launch.request, ← flags]
    rfl
  rw [perform_eq, Launching.request, started]

theorem Launch.perform_error (failed : (g.builders l.builder).payload = .error f) :
    l.perform g = .error f g := by
  have stopped : g.host.start (g.builders l.builder).payload l.caller l.options l.requestCode =
      .error f := by
    rw [Host.start, failed]
    rfl
  rw [perform_eq, Launching.request, stopped]

end Steps

section Runs

variable (g : Stage) (ls : List Launch) (l : Launch) (c : Caller)

/-- The requests that launches make of a caller: one for each payload that can be made. -/
def Stage.requestsTo : List Started :=
  ls.filterMap fun l =>
    if l.caller = c then (g.builders l.builder).payload.toOption.map l.request else none

theorem Stage.requestsTo_append (ls ls' : List Launch) :
    g.requestsTo (ls ++ ls') c = g.requestsTo ls c ++ g.requestsTo ls' c := by
  simp only [Stage.requestsTo, List.filterMap_append]

theorem Stage.run_concat : g.run (ls ++ [l]) = l.after (g.run ls) := by
  rw [Stage.run, List.foldl_append]
  rfl

theorem Launch.builders_after : (l.after g).builders = g.builders := by
  rw [after]
  cases h : (g.builders l.builder).payload with
  | ok p => rw [perform_ok h]
  | error f => rw [perform_error h]

theorem Launch.forget_after : (l.after g).host.forget = g.host.forget := by
  rw [after]
  cases h : (g.builders l.builder).payload with
  | ok p =>
    rw [perform_ok h]
    exact g.host.forget_record l.caller (l.request p)
  | error f => rw [perform_error h]

theorem Launch.journal_after :
    (l.after g).host.journal c = g.host.journal c ++ g.requestsTo [l] c := by
  rw [after, Stage.requestsTo]
  cases h : (g.builders l.builder).payload with
  | ok p =>
    rw [perform_ok h]
    change (g.host.record l.caller (l.request p)).journal c = _
    rw [Host.journal_record]
    by_cases own : l.caller = c
    · simp [own, Except.toOption, h]
    · simp [own, Ne.symm own]
  | error f =>
    rw [perform_error h]
    by_cases own : l.caller = c
    · simp [own, Except.toOption, h]
    · simp [own]

theorem Stage.builders_run : (g.run ls).builders = g.builders := by
  induction ls using List.reverseRecOn with
  | nil => rfl
  | append_singleton ls l ih => rw [run_concat, Launch.builders_after, ih]

theorem Stage.forget_run : (g.run ls).host.forget = g.host.forget := by
  induction ls using List.reverseRecOn with
  | nil => rfl
  | append_singleton ls l ih => rw [run_concat, Launch.forget_after, ih]

theorem Stage.requestsTo_run (ls' : List Launch) :
    (g.run ls').requestsTo ls c = g.requestsTo ls c := by
  rw [requestsTo, requestsTo, builders_run]

theorem Stage.journal_run : (g.run ls).host.journal c = g.host.journal c ++ g.requestsTo ls c := by
  induction ls using List.reverseRecOn with
  | nil => exact (List.append_nil _).symm
  | append_singleton ls l ih =>
    rw [run_concat, Launch.journal_after, ih, requestsTo_run, requestsTo_append, List.append_assoc]

end Runs

/-- After any launches every journal holds what it held before and then one request for each launch on
its caller whose payload could be made. Each launch says whether it was one of these, and nothing else on
the stage has changed. -/
theorem launches_all_or_nothing (g : Stage) (ls : List Launch) :
    (∀ c, (g.run ls).host.journal c = g.host.journal c ++ g.requestsTo ls c) ∧
    (∀ l,
      (∀ p, (g.builders l.builder).payload = .ok p →
        l.perform (g.run ls) = .ok () (g.run (ls ++ [l])) ∧
          ∀ c, (g.run (ls ++ [l])).host.journal c =
            (g.run ls).host.journal c ++ if c = l.caller then [l.request p] else []) ∧
      ∀ f, (g.builders l.builder).payload = .error f →
        l.perform (g.run ls) = .error f (g.run ls) ∧ g.run (ls ++ [l]) = g.run ls) ∧
    (g.run ls).host.forget = g.host.forget ∧
    (g.run ls).builders = g.builders := by
  refine ⟨g.journal_run ls, fun l => ⟨fun p made => ?_, fun f failed => ?_⟩, g.forget_run ls,
    g.builders_run ls⟩
  · rw [← g.builders_run ls] at made
    have performed := Launch.perform_ok made
    have after : g.run (ls ++ [l]) =
        { g.run ls with host := (g.run ls).host.record l.caller (l.request p) } := by
      rw [g.run_concat, Launch.after, performed]
    refine ⟨after ▸ performed, fun c => ?_⟩
    rw [after]
    exact Host.journal_record _ l.caller c (l.request p)
  · rw [← g.builders_run ls] at failed
    have performed := Launch.perform_error failed
    exact ⟨performed, by rw [g.run_concat, Launch.after, performed]⟩

end ScreenNavigation.Navigation
