import Mathlib.Data.List.Induction
import ScreenNavigation.Navigation.Screens

/-! Payloads delivered to a running screen. The payload it remembers and the values it holds come from two
deliveries that need not be the same: the last one that updates, and the last one that carries a payload. -/
namespace ScreenNavigation.Navigation

namespace Delivery

variable (ds : List Delivery) (d : Delivery)

/-- The last delivery whose payload is remembered. -/
def lastUpdate? : Option Delivery := (ds.filter (·.updates)).getLast?

/-- The last payload that came with a delivery, remembered or not. -/
def lastCarried? : Option Payload := (ds.filterMap (·.payload)).getLast?

theorem lastUpdate?_concat :
    lastUpdate? (ds ++ [d]) = if d.updates then some d else lastUpdate? ds := by
  rw [lastUpdate?, List.filter_append, List.getLast?_append]
  cases updates : d.updates with
  | true => simp [updates]
  | false => simp [updates, lastUpdate?]

theorem lastCarried?_concat : lastCarried? (ds ++ [d]) = d.payload.or (lastCarried? ds) := by
  rw [lastCarried?, List.filterMap_append, List.getLast?_append]
  cases carried : d.payload with
  | none => simp [carried, lastCarried?]
  | some p => simp [carried]

end Delivery

namespace Screen

open Delivery

variable {V : Type} (c : Codec V) (s : Screen V)

/-- Injected values depend on the extras alone, and not on the screen they are injected into. -/
theorem values_inject (e : Extras) : (s.inject c (some e)).values = c.read e := rfl

@[simp]
theorem payload_inject (state : Option Extras) : (s.inject c state).payload = s.payload := by
  cases state <;> rfl

@[simp]
theorem journal_inject (state : Option Extras) : (s.inject c state).journal = s.journal := by
  cases state <;> rfl

/-- Both kinds of deliveries differ in whether they update only. -/
theorem deliver_eq (d : Delivery) : s.deliver c d = s.processPayload c d.payload d.updates := by
  cases d <;> rfl

theorem payload_deliver (d : Delivery) :
    (s.deliver c d).payload = if d.updates then d.payload else s.payload := by
  rw [deliver_eq, processPayload, payload_inject]
  cases d.updates <;> rfl

theorem values_deliver (d : Delivery) :
    (s.deliver c d).values = d.payload.elim s.values fun p => c.read p.extras := by
  rw [deliver_eq, processPayload]
  cases d.payload with
  | none => cases d.updates <;> rfl
  | some p => exact values_inject c _ p.extras

theorem journal_deliver (d : Delivery) : (s.deliver c d).journal = s.journal := by
  rw [deliver_eq, processPayload, journal_inject]
  cases d.updates <;> rfl

/-- Deliveries one after the other. -/
def deliverAll (ds : List Delivery) : Screen V := ds.foldl (deliver c) s

theorem deliverAll_concat (ds : List Delivery) (d : Delivery) :
    s.deliverAll c (ds ++ [d]) = (s.deliverAll c ds).deliver c d := by
  rw [deliverAll, List.foldl_append]
  rfl

theorem payload_deliverAll (ds : List Delivery) :
    (s.deliverAll c ds).payload = (lastUpdate? ds).elim s.payload (·.payload) := by
  induction ds using List.reverseRecOn with
  | nil => rfl
  | append_singleton ds d ih =>
    rw [deliverAll_concat, payload_deliver, lastUpdate?_concat, ih]
    cases d.updates <;> rfl

theorem values_deliverAll (ds : List Delivery) :
    (s.deliverAll c ds).values = (lastCarried? ds).elim s.values fun p => c.read p.extras := by
  induction ds using List.reverseRecOn with
  | nil => rfl
  | append_singleton ds d ih =>
    rw [deliverAll_concat, values_deliver, lastCarried?_concat, ih]
    cases d.payload <;> rfl

theorem journal_deliverAll (ds : List Delivery) : (s.deliverAll c ds).journal = s.journal := by
  induction ds using List.reverseRecOn with
  | nil => rfl
  | append_singleton ds d ih => rw [deliverAll_concat, journal_deliver, ih]

end Screen

/-- After any deliveries a detail screen remembers what the last update brought, and holds what a new
screen would take from the last payload that arrived. -/
theorem deliveries_leave_last (s : Detail) (ds : List Delivery) :
    (s.deliverAll DetailValues.codec ds).payload =
      (Delivery.lastUpdate? ds).elim s.payload (·.payload) ∧
    (s.deliverAll DetailValues.codec ds).values =
      (Delivery.lastCarried? ds).elim s.values
        (fun p => (Detail.initial.inject DetailValues.codec (some p.extras)).values) ∧
    (s.deliverAll DetailValues.codec ds).journal = s.journal := by
  refine ⟨s.payload_deliverAll _ ds, ?_, s.journal_deliverAll _ ds⟩
  simp only [Screen.values_inject]
  exact s.values_deliverAll _ ds

end ScreenNavigation.Navigation
