import ScreenNavigation.Proofs.Navigation.ScreenSlots

/-! The way of a builder's values into a payload and out again. Only a score without a JSON form keeps a
payload from being made, and absent values come out as their defaults. -/
namespace ScreenNavigation.Navigation

open Extras (Shape)

/-- The keys of a detail payload: all seven in order, without those of absent values. -/
def DetailValues.payloadKeys (v : DetailValues) : List String :=
  ["id"] ++ (if v.tag.isSome then ["tag"] else []) ++ ["page", "score"] ++
    (if v.labels.isSome then ["labels"] else []) ++ (if v.owner.isSome then ["owner"] else []) ++
    ["count"]

/-- The keys of a counter payload. -/
def CounterValues.payloadKeys (v : CounterValues) : List String :=
  if v.step.isSome then ["step"] else []

private theorem DetailValues.presentKeys_slots (v : DetailValues) :
    Slot.presentKeys v.slots = v.payloadKeys := by
  cases ht : v.tag <;> cases hl : v.labels <;> cases ho : v.owner <;>
    simp [Slot.presentKeys, slots, payloadKeys, ht, hl, ho]

private theorem CounterValues.presentKeys_slots (v : CounterValues) :
    Slot.presentKeys v.slots = v.payloadKeys := by
  cases h : v.step <;> simp [Slot.presentKeys, slots, payloadKeys, h]

section Payloads

variable {V : Type} {c : Codec V} {v : V} {e : Extras}

private theorem payload_of_ok (h : c.write v .empty = .ok () e) :
    c.payload v = .ok { Payload.forScreen c.target with extras := e } := by
  rw [Codec.payload, h]

private theorem payload_of_error {f : Extras.ExtrasFault} (h : c.write v .empty = .error f e) :
    c.payload v = .error f := by
  rw [Codec.payload, h]

end Payloads

private theorem payload_detail (v : DetailValues) {x : Decimal.Double} (finite : v.score = .finite x)
    (screen : Detail) :
    ∃ p, DetailValues.codec.payload v = .ok p ∧ p.target = .detail ∧ p.target ≠ .counter ∧
      p.flags = .none ∧ p.extras.keys = v.payloadKeys ∧
      (Instance.detail screen).injectDetail (some p.extras) =
        .detail { screen with values := { v with tag := some (v.tag.getD "none") } } := by
  obtain ⟨e, written, all⟩ := v.write_ok finite .empty
  refine ⟨_, payload_of_ok written, rfl, nofun, rfl, ?_, ?_⟩
  · rw [← v.presentKeys_slots]
    exact all.keys fun slot _ => List.not_mem_nil
  · have read := DetailValues.read_of_written all
    rw [v.writtenInto_empty] at read
    rw [Instance.injectDetail, Screen.inject, ← read]
    rfl

private theorem payload_counter (v : CounterValues) (screen : Counter) :
    ∃ p, CounterValues.codec.payload v = .ok p ∧ p.target = .counter ∧ p.target ≠ .detail ∧
      p.flags = .none ∧ p.extras.keys = v.payloadKeys ∧
      (Instance.counter screen).injectCounter (some p.extras) =
        .counter { screen with values := ⟨some (v.step.getD ⟨10, by decide, by decide⟩)⟩ } := by
  obtain ⟨e, written, all⟩ := v.write_ok .empty
  refine ⟨_, payload_of_ok written, rfl, nofun, rfl, ?_, ?_⟩
  · rw [← v.presentKeys_slots]
    exact all.keys fun slot _ => List.not_mem_nil
  · have read := CounterValues.read_of_written all
    rw [v.writtenInto_empty] at read
    rw [Instance.injectCounter, Screen.inject]
    exact congrArg (fun values => Instance.counter { screen with values := values }) read

/-- Injecting the payload of a builder gives a screen the builder's values, whatever it held before. Only
the score of a detail builder can keep its payload from being made. -/
theorem payload_round_trip :
    (∀ (v : DetailValues) (screen : Detail),
      (∀ x, v.score = .finite x →
        ∃ p, DetailValues.codec.payload v = .ok p ∧ p.target = .detail ∧ p.target ≠ .counter ∧
          p.flags = .none ∧ p.extras.keys = v.payloadKeys ∧
          (Instance.detail screen).injectDetail (some p.extras) =
            .detail { screen with values := { v with tag := some (v.tag.getD "none") } }) ∧
      ((∀ x, v.score ≠ .finite x) →
        ∃ cause, DetailValues.codec.payload v = .error (.encode "score" cause))) ∧
    ∀ (v : CounterValues) (screen : Counter),
      ∃ p, CounterValues.codec.payload v = .ok p ∧ p.target = .counter ∧ p.target ≠ .detail ∧
        p.flags = .none ∧ p.extras.keys = v.payloadKeys ∧
        (Instance.counter screen).injectCounter (some p.extras) =
          .counter { screen with values := ⟨some (v.step.getD ⟨10, by decide, by decide⟩)⟩ } := by
  refine ⟨fun v screen => ⟨fun x finite => payload_detail v finite screen, fun infinite => ?_⟩,
    payload_counter⟩
  obtain ⟨cause, stopped⟩ := v.write_error infinite .empty
  exact ⟨cause, payload_of_error stopped⟩

end ScreenNavigation.Navigation
