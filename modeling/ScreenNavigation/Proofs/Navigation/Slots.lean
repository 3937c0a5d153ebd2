import Mathlib.Data.List.Nodup
import ScreenNavigation.Navigation.Codec
import ScreenNavigation.Proofs.Extras.Merging
import ScreenNavigation.Proofs.Extras.Storage

/-! Writing the values of a screen slot by slot. Every present value is stored under its key, and an
absent one leaves the key as it was. -/
namespace ScreenNavigation.Navigation

open Extras (Shape ExtrasFault)

section Runs

variable {α β : Type} {x : Writing α} {e e' : Extras}

theorem Writing.bind_of_ok {a : α} (h : x e = .ok a e') (f : α → Writing β) :
    (x >>= f) e = f a e' := by
  change EStateM.bind x f e = f a e'
  rw [EStateM.bind, h]

theorem Writing.bind_of_error {fault : ExtrasFault} (h : x e = .error fault e')
    (f : α → Writing β) : (x >>= f) e = .error fault e' := by
  change EStateM.bind x f e = .error fault e'
  rw [EStateM.bind, h]

end Runs

/-- A key with the value that is written under it, if there is one. -/
structure Slot where
  key : String
  shape : Shape
  value : Option shape.Carrier

namespace Slot

def write (x : Slot) : Writing Unit := Writing.optional x.shape x.key x.value

def writeAll : List Slot → Writing Unit
  | [] => pure ()
  | x :: rest => do
    x.write
    writeAll rest

def IsStorable (x : Slot) : Prop := ∀ v ∈ x.value, x.shape.Storable v

/-- The slots that are written, in order. -/
def presentKeys (slots : List Slot) : List String :=
  (slots.filter (·.value.isSome)).map (·.key)

variable {x : Slot} {slots : List Slot} {e e' : Extras}

/-- What writing slots makes of extras. -/
structure Written (slots : List Slot) (e e' : Extras) : Prop where
  /-- A value that was there already shows through where a slot has none. -/
  own : ∀ x ∈ slots, e'.get? x.shape x.key = (x.value <|> e.get? x.shape x.key)
  others : ∀ key, key ∉ slots.map (·.key) → e'.find? key = e.find? key
  keys : (∀ x ∈ slots, x.key ∉ e.keys) → e'.keys = e.keys ++ presentKeys slots

/-- The entry that the slot is written as, if it has a value with an encoding. -/
def stored? (x : Slot) : Option (String × Json.Value) :=
  x.value.bind fun v => (x.shape.encodable v).encode.toOption.map (x.key, ·)

/-- The entries that slots are written as, in order. -/
def written (slots : List Slot) : List (String × Json.Value) := slots.filterMap stored?

theorem stored?_of_stores {v : x.shape.Carrier} {w : Json.Value} (present : x.value = some v)
    (stores : x.shape.Stores v w) : x.stored? = some (x.key, w) := by
  rw [stored?, present, Option.bind_some, Extras.encode_of_encodes stores.toEncodes]
  rfl

theorem stored?_of_absent (absent : x.value = none) : x.stored? = none := by
  rw [stored?, absent, Option.bind_none]

theorem write_ok (h : x.IsStorable) (e : Extras) :
    x.write e = .ok () (e.insertAll x.stored?.toList) := by
  cases present : x.value with
  | none =>
    rw [write, present, stored?_of_absent present]
    rfl
  | some v =>
    obtain ⟨w, stores, put⟩ := Extras.put_storable (h v present) e x.key
    rw [write, present, Writing.optional, Writing.value, put, stored?_of_stores present stores]
    rfl

theorem written_cons (x : Slot) (slots : List Slot) :
    written (x :: slots) = x.stored?.toList ++ written slots := by
  rw [written, List.filterMap_cons]
  cases x.stored? <;> rfl

theorem mem_written {key : String} {w : Json.Value} : (key, w) ∈ written slots ↔
    ∃ x ∈ slots, x.key = key ∧ ∃ v, x.value = some v ∧ (x.shape.encodable v).encode = .ok w := by
  have encoded (x : Slot) : x.stored? = some (key, w) ↔
      x.key = key ∧ ∃ v, x.value = some v ∧ (x.shape.encodable v).encode = .ok w := by
    cases present : x.value with
    | none => simp [stored?, present]
    | some v => cases made : (x.shape.encodable v).encode <;> simp [stored?, present, made, Except.toOption]
  simp only [written, List.mem_filterMap, encoded]

theorem keys_written (h : ∀ x ∈ slots, x.IsStorable) :
    (written slots).map (·.1) = presentKeys slots := by
  induction slots with
  | nil => rfl
  | cons x rest ih =>
    have behind := ih fun y hy => h y (List.mem_cons_of_mem _ hy)
    rw [written_cons, List.map_append, behind]
    cases present : x.value with
    | none => simp [presentKeys, stored?_of_absent present, present]
    | some v =>
      obtain ⟨w, stores⟩ := h x List.mem_cons_self v present
      simp [presentKeys, stored?_of_stores present stores, present]

theorem nodup_presentKeys (distinct : (slots.map (·.key)).Nodup) : (presentKeys slots).Nodup :=
  distinct.sublist (List.filter_sublist.map _)

theorem insertAll_written (distinct : (slots.map (·.key)).Nodup) (h : ∀ x ∈ slots, x.IsStorable)
    (e : Extras) : Written slots e (e.insertAll (written slots)) := by
  have unique : ((written slots).map (·.1)).Nodup := by
    rw [keys_written h]
    exact nodup_presentKeys distinct
  constructor
  case own =>
    intro x hx
    cases present : x.value with
    | none =>
      have missing : x.key ∉ (written slots).map (·.1) := by
        rw [keys_written h]
        intro known
        obtain ⟨y, hy, same⟩ := List.mem_map.mp known
        obtain ⟨hy, filled⟩ := List.mem_filter.mp hy
        rw [List.inj_on_of_nodup_map distinct hy hx same, present] at filled
        cases filled
      exact Extras.get?_congr (Extras.find?_insertAll_of_notMem unique e missing) x.shape
    | some v =>
      obtain ⟨w, stores⟩ := h x hx v present
      have mem : (x.key, w) ∈ written slots :=
        List.mem_filterMap.mpr ⟨x, hx, stored?_of_stores present stores⟩
      exact Extras.get?_stored stores (Extras.find?_insertAll_of_mem unique e mem)
  case others =>
    intro key missing
    refine Extras.find?_insertAll_of_notMem unique e fun known => missing ?_
    rw [keys_written h] at known
    exact (List.filter_sublist.map _).subset known
  case keys =>
    intro missing
    have new : ∀ key ∈ presentKeys slots, key ∉ e.keys := by
      intro key mem
      obtain ⟨x, hx, rfl⟩ := List.mem_map.mp mem
      exact missing x (List.mem_of_mem_filter hx)
    rw [Extras.keys_insertAll unique, keys_written h, List.filter_eq_self.mpr (by simpa using new)]

/-- Writing slots with values that can be stored stores an entry for each of them. -/
theorem writeAll_ok (h : ∀ x ∈ slots, x.IsStorable) (e : Extras) :
    writeAll slots e = .ok () (e.insertAll (written slots)) := by
  induction slots generalizing e with
  | nil => rfl
  | cons x rest ih =>
    have first := write_ok (h x List.mem_cons_self) e
    rw [written_cons, Extras.insertAll_append]
    exact (Writing.bind_of_ok first _).trans (ih (fun y hy => h y (List.mem_cons_of_mem _ hy)) _)

/-- The first value without an encoding stops the writing, and what was written before it stays. -/
theorem writeAll_error {before after : List Slot} (h : ∀ y ∈ before, y.IsStorable)
    {v : x.shape.Carrier} (present : x.value = some v) {cause : Json.Cause}
    (refused : (x.shape.encodable v).encode = .error cause) (e : Extras) :
    writeAll (before ++ x :: after) e =
      .error (.encode x.key cause) (e.insertAll (written before)) := by
  induction before generalizing e with
  | nil =>
    have put : e.put x.key (x.shape.encodable v) = .error (.encode x.key cause) := by
      rw [Extras.put, refused]
    have stopped : x.write e = .error (.encode x.key cause) e := by
      rw [write, present, Writing.optional, Writing.value, put]
    exact Writing.bind_of_error stopped _
  | cons y rest ih =>
    have first := write_ok (h y List.mem_cons_self) e
    rw [written_cons, Extras.insertAll_append]
    exact (Writing.bind_of_ok first _).trans (ih (fun z hz => h z (List.mem_cons_of_mem _ hz)) _)

end Slot

end ScreenNavigation.Navigation
