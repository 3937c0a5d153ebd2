import ScreenNavigation.Proofs.Navigation.DecodedFields
import ScreenNavigation.Proofs.Navigation.ScreenSlots

/-! What saving a detail screen leaves in extras, also when it fails. Fields are written one after the
other, and those in front of a score without a JSON form have been written when the save stops. -/
namespace ScreenNavigation.Navigation

open Extras (ExtrasFault)

/-- A screen and the extras it is saved into. -/
structure Saving where
  screen : Instance
  extras : Extras

/-- The detail builder's saving of the screen. -/
def Saving.saveDetail : EStateM ExtrasFault Saving Unit := fun g =>
  match g.screen.saveDetail g.extras with
  | .ok _ e => .ok () { g with extras := e }
  | .error f e => .error f { g with extras := e }

section Steps

variable {s : Detail} {e e' : Extras}

private theorem Saving.saveDetail_ok (written : s.values.write e = .ok () e') :
    Saving.saveDetail ⟨.detail s, e⟩ = .ok () ⟨.detail s, e'⟩ := by
  have saved : (Instance.detail s).saveDetail e = .ok () e' := written
  simp only [saveDetail, saved]

private theorem Saving.saveDetail_error {fault : ExtrasFault}
    (stopped : s.values.write e = .error fault e') :
    Saving.saveDetail ⟨.detail s, e⟩ = .error fault ⟨.detail s, e'⟩ := by
  have failed : (Instance.detail s).saveDetail e = .error fault e' := stopped
  simp only [saveDetail, failed]

end Steps

namespace DetailField

/-- All fields in the order in which they are written. -/
def all : List DetailField := [id, tag, page, score, labels, owner, count]

/-- The fields that are written in front of the score. -/
def first : List DetailField := [id, tag, page]

/-- Where there is a value in the field, its encoding stands in the entry of the field. -/
def Holds (e : Extras) (v : DetailValues) (f : DetailField) : Prop :=
  ∀ a, value v f = some a → ∃ w, (f.shape.encodable a).encode = .ok w ∧ e.find? f.key = some w

/-- What saving the fields of a screen makes of extras. -/
structure Saved (fs : List DetailField) (v : DetailValues) (e e' : Extras) : Prop where
  own : ∀ f ∈ fs, Holds e' v f
  others : ∀ key, (∀ f ∈ fs, (value v f).isSome → key ≠ f.key) → e'.find? key = e.find? key
  /-- Keys that were there keep their order, and new ones come behind them. -/
  order : e.keys <+: e'.keys
  same : e' = e ↔ ∀ f ∈ fs, Holds e v f

def slot (v : DetailValues) (f : DetailField) : Slot := ⟨f.key, f.shape, value v f⟩

variable {v : DetailValues}

theorem key_injective : Function.Injective key := by
  intro f g same
  by_contra apart
  exact key_ne apart same

theorem slots_eq (v : DetailValues) : v.slots = all.map (slot v) := rfl

theorem insertAll_saved {fs : List DetailField} (distinct : fs.Nodup) (h : ∀ x ∈ fs.map (slot v), x.IsStorable)
    (e : Extras) : Saved fs v e (e.insertAll (Slot.written (fs.map (slot v)))) := by
  have unique : ((Slot.written (fs.map (slot v))).map (·.1)).Nodup := by
    rw [Slot.keys_written h]
    refine Slot.nodup_presentKeys ?_
    rw [List.map_map]
    exact distinct.map key_injective
  have entry {f : DetailField} (hf : f ∈ fs) {a : f.shape.Carrier} (present : value v f = some a) :
      ∃ w, (f.shape.encodable a).encode = .ok w ∧ (f.key, w) ∈ Slot.written (fs.map (slot v)) := by
    have mem : slot v f ∈ fs.map (slot v) := List.mem_map_of_mem hf
    obtain ⟨w, stores⟩ := h _ mem a present
    have encoded := Extras.encode_of_encodes stores.toEncodes
    exact ⟨w, encoded, Slot.mem_written.mpr ⟨_, mem, rfl, a, present, encoded⟩⟩
  constructor
  case own =>
    intro f hf a present
    obtain ⟨w, encoded, mem⟩ := entry hf present
    exact ⟨w, encoded, Extras.find?_insertAll_of_mem unique e mem⟩
  case others =>
    intro key missing
    refine Extras.find?_insertAll_of_notMem unique e fun known => ?_
    obtain ⟨⟨_, w⟩, mem, rfl⟩ := List.mem_map.mp known
    obtain ⟨x, hx, same, a, present, _⟩ := Slot.mem_written.mp mem
    obtain ⟨f, hf, rfl⟩ := List.mem_map.mp hx
    exact missing f hf (Option.isSome_of_mem present) same.symm
  case order =>
    rw [Extras.keys_insertAll unique]
    exact List.prefix_append _ _
  case same =>
    rw [Extras.insertAll_eq_self_iff unique]
    constructor
    · intro held f hf a present
      obtain ⟨w, encoded, mem⟩ := entry hf present
      exact ⟨w, encoded, held _ w mem⟩
    · intro saved key w mem
      obtain ⟨x, hx, rfl, a, present, encoded⟩ := Slot.mem_written.mp mem
      obtain ⟨f, hf, rfl⟩ := List.mem_map.mp hx
      obtain ⟨w', encoded', found⟩ := saved f hf a present
      cases encoded.symm.trans encoded'
      exact found

end DetailField

open DetailField

/-- A detail screen with a finite score is saved with all its fields. Any other score stops the save behind
id, tag and page, which stay written: then the extras are what they were before exactly when they held
these three already. No other key changes, and the screen never does. -/
theorem saves_leave_written_fields (s : Detail) (e : Extras) :
    (∀ x, s.values.score = .finite x → ∃ e',
      Saving.saveDetail ⟨.detail s, e⟩ = .ok () ⟨.detail s, e'⟩ ∧ Saved all s.values e e') ∧
    ((∀ x, s.values.score ≠ .finite x) → ∃ cause e',
      Saving.saveDetail ⟨.detail s, e⟩ = .error (.encode "score" cause) ⟨.detail s, e'⟩ ∧
        Saved first s.values e e') := by
  constructor
  · intro x finite
    have storable : ∀ x ∈ all.map (slot s.values), x.IsStorable :=
      DetailValues.slots_storable finite
    have written := Slot.writeAll_ok storable e
    rw [← slots_eq, ← DetailValues.write_eq] at written
    exact ⟨_, Saving.saveDetail_ok written, insertAll_saved (by decide) storable e⟩
  · intro infinite
    obtain ⟨cause, stopped⟩ := s.values.write_error infinite e
    have storable : ∀ x ∈ first.map (slot s.values), x.IsStorable := s.values.first_slots_storable
    exact ⟨cause, _, Saving.saveDetail_error stopped, insertAll_saved (by decide) storable e⟩

/-- A new screen whose score is no number. -/
def unscored : Detail :=
  { Detail.initial with values := { DetailValues.initial with score := .nan } }

/-- A failed save leaves fields behind in extras that were empty. -/
theorem failed_save_leaves_trace : ∃ cause e',
    Saving.saveDetail ⟨.detail unscored, .empty⟩ =
      .error (.encode "score" cause) ⟨.detail unscored, e'⟩ ∧
    e'.keys = ["id", "page"] ∧ e' ≠ .empty := by
  refine ⟨_, _, rfl, by decide, fun same => ?_⟩
  have keys := congrArg Extras.keys same
  revert keys
  decide

end ScreenNavigation.Navigation
