import Mathlib.Data.List.Basic
import ScreenNavigation.Extras.Register

/-! Storing values under keys. A stored value is found under its own key and under no other, and only a
key that was missing goes to the end. -/
namespace ScreenNavigation.Extras

open Json

variable {key other : String}

section Entries

variable {es : List (String × Value)}

private theorem find?_insertEntry_self (key : String) (v : Value) (es : List (String × Value)) :
    (insertEntry key v es).find? (·.1 == key) = some (key, v) := by
  induction es with
  | nil => simp [insertEntry]
  | cons first rest ih =>
    obtain ⟨k, w⟩ := first
    by_cases same : k = key
    · simp [insertEntry, same]
    · simp [insertEntry, same, ih]

private theorem find?_insertEntry_of_ne (h : other ≠ key) (v : Value) (es : List (String × Value)) :
    (insertEntry key v es).find? (·.1 == other) = es.find? (·.1 == other) := by
  induction es with
  | nil => simp [insertEntry, h.symm]
  | cons first rest ih =>
    obtain ⟨k, w⟩ := first
    by_cases same : k = key
    · subst same
      simp [insertEntry, h.symm]
    · rw [insertEntry, if_neg same, List.find?_cons, List.find?_cons, ih]

theorem mem_insertEntry {entry : String × Value} {v : Value} (h : entry ∈ insertEntry key v es) :
    entry = (key, v) ∨ entry ∈ es := by
  induction es with
  | nil => exact .inl (List.mem_singleton.mp h)
  | cons first rest ih =>
    obtain ⟨k, w⟩ := first
    rw [insertEntry] at h
    split at h
    · rename_i same
      rw [same] at h
      exact (List.mem_cons.mp h).imp_right (List.mem_cons_of_mem _)
    · rcases List.mem_cons.mp h with rfl | later
      · exact .inr List.mem_cons_self
      · exact (ih later).imp_right (List.mem_cons_of_mem _)

end Entries

variable {e : Extras}

@[simp]
theorem find?_insert_self (e : Extras) (key : String) (v : Value) :
    (e.insert key v).find? key = some v := by
  rw [find?, insert, find?_insertEntry_self, Option.map_some]

theorem find?_insert_of_ne (e : Extras) (h : other ≠ key) (v : Value) :
    (e.insert key v).find? other = e.find? other := by
  rw [find?, insert, find?_insertEntry_of_ne h, find?]

theorem keys_insert_of_notMem (h : key ∉ e.keys) (v : Value) :
    (e.insert key v).keys = e.keys ++ [key] := by
  rw [keys, entries_insert, insertEntry_of_notMem h, List.map_append, keys, List.map_singleton]

theorem keys_insert_of_mem (h : key ∈ e.keys) (v : Value) : (e.insert key v).keys = e.keys :=
  keys_insertEntry_of_mem h v

theorem keys_insert (e : Extras) (key : String) (v : Value) :
    (e.insert key v).keys = e.keys ++ if key ∈ e.keys then [] else [key] := by
  by_cases old : key ∈ e.keys
  · rw [if_pos old, List.append_nil, keys_insert_of_mem old]
  · rw [if_neg old, keys_insert_of_notMem old]

theorem find?_eq_none_iff : e.find? key = none ↔ key ∉ e.keys := by
  rw [find?, Option.map_eq_none_iff, List.find?_eq_none, keys, List.mem_map]
  simp only [beq_iff_eq, not_exists, not_and]

theorem keys_remove (e : Extras) (key : String) : (e.remove key).1.keys = e.keys.filter (· != key) := by
  rw [keys, remove, keys, List.filter_map]
  rfl

theorem notMem_keys_remove (e : Extras) (key : String) : key ∉ (e.remove key).1.keys := by
  simp [keys_remove]

theorem find?_remove_self (e : Extras) (key : String) : (e.remove key).1.find? key = none :=
  find?_eq_none_iff.mpr (notMem_keys_remove e key)

theorem find?_remove_of_ne (e : Extras) (h : other ≠ key) :
    (e.remove key).1.find? other = e.find? other := by
  -- a filter before the search drops no entry that the search is for
  have kept (entry : String × Value) :
      decide (entry.1 != key ∧ entry.1 == other) = (entry.1 == other) := by
    by_cases here : entry.1 = other
    · simp [here, h]
    · simp [here]
  simp only [find?, remove, List.find?_filter, kept]

theorem tryGet_of_decoded {s : Shape} {v : Value} {a : s.Carrier} (found : e.find? key = some v)
    (present : v ≠ .null) (decoded : s.decode v = .ok a) : e.tryGet s key = .ok (some a) := by
  rw [tryGet, found]
  cases v with
  | null => exact absurd rfl present
  | bool | number | string | array | object => simp only [decoded]

/-- What a key reads as depends on the value found under it alone. -/
theorem get?_congr {e e' : Extras} (h : e.find? key = e'.find? key) (s : Shape) :
    e.get? s key = e'.get? s key := by
  rw [get?, get?, tryGet, tryGet, h]

end ScreenNavigation.Extras
