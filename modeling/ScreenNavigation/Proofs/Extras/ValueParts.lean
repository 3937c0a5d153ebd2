import Mathlib.Data.Option.Basic
import ScreenNavigation.Extras.Registers
import ScreenNavigation.Proofs.Decimal.Widening
import ScreenNavigation.Proofs.Extras.Entries

/-! The parts of values and what becomes of them in storage. A floating-point number that JSON cannot
write keeps the whole value out, so null is only stored for parts that are empty themselves. -/
namespace ScreenNavigation

open Decimal Json

namespace Json.Value

/-- The values that stand directly in a JSON value. -/
def children : Value → List Value
  | .array items => items
  | .object entries => entries.map (·.2)
  | _ => []

/-- A JSON value occurs in another that has it as a part, however deep. -/
inductive OccursIn : Value → Value → Prop where
  | self (w : Value) : OccursIn w w
  | child {u c w : Value} : c ∈ w.children → OccursIn u c → OccursIn u w

/-- Null occurs in other values through their children. -/
theorem exists_child_of_null {w : Value} (h : OccursIn .null w) (other : w ≠ .null) :
    ∃ c ∈ w.children, OccursIn .null c := by
  cases h with
  | self => exact absurd rfl other
  | child inside occurs => exact ⟨_, inside, occurs⟩

theorem not_null_occursIn {w : Value} (other : w ≠ .null) (leaf : w.children = []) :
    ¬ OccursIn .null w := fun h => by
  obtain ⟨c, inside, _⟩ := exists_child_of_null h other
  rw [leaf] at inside
  exact List.not_mem_nil inside

end Json.Value

namespace Extras

namespace Encodable

/-- The values that stand directly in a value; those of a map are its keys as well. -/
def children : Encodable → List Encodable
  | .present v => [v]
  | .wrapped v => [v]
  | .wrappedVariant _ v => [v]
  | .list items => items
  | .listVariant _ items => items
  | .map entries => entries.flatMap fun (k, v) => [k, v]
  | .record fields => fields.map (·.2)
  | .recordVariant _ fields => fields.map (·.2)
  | _ => []

/-- A value occurs in another that has it as a part, however deep. -/
inductive OccursIn : Encodable → Encodable → Prop where
  | self (v : Encodable) : OccursIn v v
  | child {u c v : Encodable} : c ∈ v.children → OccursIn u c → OccursIn u v

/-- The value is a floating-point number without a JSON form. -/
def IsNonFinite : Encodable → Prop
  | .single x => ∀ y, x ≠ .finite y
  | .double x => ∀ y, x ≠ .finite y
  | _ => False

/-- The value is an absent option or a unit. -/
def IsVoid : Encodable → Prop
  | .absent => True
  | .unit => True
  | .unitStructure => True
  | _ => False

section Faults

theorem itemsFault?_eq_none_iff {vs : List Encodable} :
    itemsFault? vs = none ↔ ∀ v ∈ vs, v.fault? = none := by
  induction vs with
  | nil => exact iff_of_true rfl nofun
  | cons v rest ih => simp only [itemsFault?, Option.orElse_eq_none, ih, List.forall_mem_cons]

theorem entriesFault?_eq_none_iff {es : List (Encodable × Encodable)} :
    entriesFault? es = none ↔ ∀ e ∈ es, e.1.fault? = none ∧ e.2.fault? = none := by
  induction es with
  | nil => exact iff_of_true rfl nofun
  | cons e rest ih =>
    simp only [entriesFault?, Option.orElse_eq_none, ih, List.forall_mem_cons, and_assoc]

theorem fieldsFault?_eq_none_iff {fields : List (String × Encodable)} :
    fieldsFault? fields = none ↔ ∀ field ∈ fields, field.2.fault? = none := by
  induction fields with
  | nil => exact iff_of_true rfl nofun
  | cons field rest ih => simp only [fieldsFault?, Option.orElse_eq_none, ih, List.forall_mem_cons]

variable {u v : Encodable}

/-- A value is without fault only when its children are. -/
theorem fault?_child (h : v.fault? = none) (inside : u ∈ v.children) : u.fault? = none := by
  cases v with
  | present v | wrapped v | wrappedVariant name v =>
    rw [List.mem_singleton.mp inside]
    exact h
  | list items | listVariant name items => exact itemsFault?_eq_none_iff.mp h u inside
  | map entries =>
    obtain ⟨e, he, part⟩ := List.mem_flatMap.mp inside
    obtain ⟨key, value⟩ := entriesFault?_eq_none_iff.mp h e he
    rcases List.mem_pair.mp part with rfl | rfl
    · exact key
    · exact value
  | record fields | recordVariant name fields =>
    obtain ⟨field, hf, rfl⟩ := List.mem_map.mp inside
    exact fieldsFault?_eq_none_iff.mp h field hf
  | bool | whole | single | double | char | text | bytes | absent | unit | unitStructure | variant
  | refused => cases inside

theorem fault?_occursIn (h : v.fault? = none) (occurs : u.OccursIn v) : u.fault? = none := by
  induction occurs with
  | self => exact h
  | child inside _ ih => exact ih (fault?_child h inside)

theorem fault?_nonFinite (h : u.IsNonFinite) : u.fault? ≠ none := by
  cases u with
  | single x | double x =>
    cases x with
    | finite y => exact absurd rfl (h y)
    | infinite | nan => exact nofun
  | _ => cases h

theorem encode_eq_ok {w : Value} (h : v.encode = .ok w) : v.fault? = none ∧ v.toJson = .ok w := by
  rw [encode] at h
  split at h
  · cases h
  · rename_i sound
    exact ⟨sound, h⟩

/-- A floating-point number without a JSON form anywhere in a value keeps the value from being encoded. -/
theorem encode_nonFinite (occurs : u.OccursIn v) (h : u.IsNonFinite) :
    ∃ cause, v.encode = .error cause := by
  cases fault : v.fault? with
  | none => exact absurd (fault?_occursIn fault occurs) (fault?_nonFinite h)
  | some cause => exact ⟨cause, by rw [encode, fault]⟩

end Faults

section Nulls

open Value (exists_child_of_null not_null_occursIn)

variable {w : Value}

private theorem map_eq_ok {α β : Type} {f : α → β} {x : Except Cause α} {b : β}
    (h : f <$> x = .ok b) : ∃ a, x = .ok a ∧ f a = b := by
  cases x with
  | error => cases h
  | ok a => exact ⟨a, rfl, Except.ok.inj h⟩

private theorem bind_eq_ok {α β : Type} {f : α → Except Cause β} {x : Except Cause α} {b : β}
    (h : x >>= f = .ok b) : ∃ a, x = .ok a ∧ f a = .ok b := by
  cases x with
  | error => cases h
  | ok a => exact ⟨a, rfl, h⟩

/-- Every item of a converted list comes from one of the values. -/
theorem exists_of_itemsToJson {vs : List Encodable} {ws : List Value} (h : itemsToJson vs = .ok ws)
    (mem : w ∈ ws) : ∃ v ∈ vs, v.toJson = .ok w := by
  induction vs generalizing ws with
  | nil =>
    cases h
    cases mem
  | cons v rest ih =>
    obtain ⟨first, json, h⟩ := bind_eq_ok h
    obtain ⟨others, jsons, h⟩ := bind_eq_ok h
    cases h
    rcases List.mem_cons.mp mem with rfl | later
    · exact ⟨v, List.mem_cons_self, json⟩
    · obtain ⟨u, hu, from_u⟩ := ih jsons later
      exact ⟨u, List.mem_cons_of_mem _ hu, from_u⟩

theorem exists_of_entriesToJson {es : List (Encodable × Encodable)}
    {written ws : List (String × Value)} (h : entriesToJson written es = .ok ws)
    {entry : String × Value} (mem : entry ∈ ws) :
    entry ∈ written ∨ ∃ e ∈ es, e.2.toJson = .ok entry.2 := by
  induction es generalizing written with
  | nil =>
    cases h
    exact .inl mem
  | cons e rest ih =>
    obtain ⟨name, _, h⟩ := bind_eq_ok h
    obtain ⟨w, json, h⟩ := bind_eq_ok h
    rcases ih h with old | ⟨u, hu, from_u⟩
    · rcases mem_insertEntry old with rfl | old
      · exact .inr ⟨e, List.mem_cons_self, json⟩
      · exact .inl old
    · exact .inr ⟨u, List.mem_cons_of_mem _ hu, from_u⟩

/-- Fields are converted like entries whose keys are their names. -/
theorem fieldsToJson_eq (written : List (String × Value)) (fields : List (String × Encodable)) :
    fieldsToJson written fields =
      entriesToJson written (fields.map fun field => (.text field.1, field.2)) := by
  induction fields generalizing written with
  | nil => rfl
  | cons field rest ih =>
    rw [fieldsToJson]
    simp only [ih]
    rfl

/-- Null in a list comes from a child that is converted to a value with null in it. -/
private theorem null_of_items {vs : List Encodable} {ws : List Value} (h : itemsToJson vs = .ok ws)
    (null : Value.OccursIn .null (.array ws)) :
    ∃ v ∈ vs, ∃ w, v.toJson = .ok w ∧ Value.OccursIn .null w := by
  obtain ⟨w, mem, occurs⟩ := exists_child_of_null null nofun
  obtain ⟨v, hv, json⟩ := exists_of_itemsToJson h mem
  exact ⟨v, hv, w, json, occurs⟩

private theorem null_of_entries {es : List (Encodable × Encodable)} {ws : List (String × Value)}
    (h : entriesToJson [] es = .ok ws) (null : Value.OccursIn .null (.object ws)) :
    ∃ e ∈ es, ∃ w, e.2.toJson = .ok w ∧ Value.OccursIn .null w := by
  obtain ⟨w, mem, occurs⟩ := exists_child_of_null null nofun
  obtain ⟨entry, he, rfl⟩ := List.mem_map.mp mem
  rcases exists_of_entriesToJson h he with old | ⟨e, he, json⟩
  · cases old
  · exact ⟨e, he, entry.2, json, occurs⟩

private theorem null_of_fields {fields : List (String × Encodable)} {ws : List (String × Value)}
    (h : fieldsToJson [] fields = .ok ws) (null : Value.OccursIn .null (.object ws)) :
    ∃ v ∈ fields.map (·.2), ∃ w, v.toJson = .ok w ∧ Value.OccursIn .null w := by
  rw [fieldsToJson_eq] at h
  obtain ⟨e, he, converted⟩ := null_of_entries h null
  obtain ⟨field, hf, rfl⟩ := List.mem_map.mp he
  exact ⟨field.2, List.mem_map_of_mem hf, converted⟩

private theorem null_of_tagged {name : String} (null : Value.OccursIn .null (.object [(name, w)])) :
    Value.OccursIn .null w := by
  obtain ⟨c, mem, occurs⟩ := exists_child_of_null null nofun
  rwa [List.mem_singleton.mp mem] at occurs

variable {v : Encodable}

theorem sizeOf_child {u : Encodable} (inside : u ∈ v.children) : sizeOf u < sizeOf v := by
  cases v with
  | present v | wrapped v | wrappedVariant name v =>
    rw [List.mem_singleton.mp inside]
    simp +arith
  | list items | listVariant name items =>
    have := List.sizeOf_lt_of_mem (show u ∈ items from inside)
    simp
    omega
  | map entries =>
    obtain ⟨⟨key, value⟩, he, part⟩ := List.mem_flatMap.mp inside
    have := List.sizeOf_lt_of_mem he
    rcases List.mem_pair.mp part with rfl | rfl
    all_goals
      simp at this ⊢
      omega
  | record fields | recordVariant name fields =>
    obtain ⟨⟨name, value⟩, hf, rfl⟩ := List.mem_map.mp inside
    have := List.sizeOf_lt_of_mem hf
    simp at this ⊢
    omega
  | bool | whole | single | double | char | text | bytes | absent | unit | unitStructure | variant
  | refused => cases inside

private theorem number_of_whole {n : Int} (json : (whole n).toJson = .ok w) :
    ∃ k, w = .number k := by
  rw [toJson] at json
  split at json
  · cases json
    exact ⟨_, rfl⟩
  · cases json

private theorem number_of_single {x : Extended .single} (sound : (single x).fault? = none)
    (json : (single x).toJson = .ok w) : ∃ k, w = .number k := by
  cases x with
  | finite y =>
    -- widening never reaches infinity
    obtain ⟨z, wide, _⟩ := Single.exists_double y
    rw [toJson, Extended.convert, wide] at json
    cases json
    exact ⟨_, rfl⟩
  | infinite | nan => cases sound

private theorem number_of_double {x : Extended .double} (sound : (double x).fault? = none)
    (json : (double x).toJson = .ok w) : ∃ k, w = .number k := by
  cases x with
  | finite y =>
    cases json
    exact ⟨_, rfl⟩
  | infinite | nan => cases sound

theorem childInduction {P : Encodable → Prop} (step : ∀ v, (∀ u ∈ v.children, P u) → P v)
    (v : Encodable) : P v :=
  step v fun u _ => childInduction step u
termination_by sizeOf v
decreasing_by exact sizeOf_child ‹_›

/-- A value that is encoded has null only where it has an absent option or a unit. -/
theorem exists_isVoid (sound : v.fault? = none) (json : v.toJson = .ok w)
    (null : Value.OccursIn .null w) : ∃ u : Encodable, u.OccursIn v ∧ u.IsVoid := by
  induction v using childInduction generalizing w with
  | step v ih =>
    have inner {c : Encodable} (inside : c ∈ v.children)
        (h : ∃ w, c.toJson = .ok w ∧ Value.OccursIn .null w) : ∃ u : Encodable, u.OccursIn v ∧ u.IsVoid := by
      obtain ⟨w, json, null⟩ := h
      obtain ⟨u, occurs, empty⟩ := ih c inside (fault?_child sound inside) json null
      exact ⟨u, .child inside occurs, empty⟩
    cases v with
    | absent | unit | unitStructure => exact ⟨_, .self _, trivial⟩
    | present v | wrapped v => exact inner List.mem_cons_self ⟨w, json, null⟩
    | wrappedVariant name v =>
      obtain ⟨tagged, converted, rfl⟩ := map_eq_ok json
      exact inner List.mem_cons_self ⟨tagged, converted, null_of_tagged null⟩
    | list items =>
      obtain ⟨ws, converted, rfl⟩ := map_eq_ok json
      obtain ⟨c, hc, h⟩ := null_of_items converted null
      exact inner hc h
    | listVariant name items =>
      obtain ⟨ws, converted, rfl⟩ := map_eq_ok json
      obtain ⟨c, hc, h⟩ := null_of_items converted (null_of_tagged null)
      exact inner hc h
    | map entries =>
      obtain ⟨ws, converted, rfl⟩ := map_eq_ok json
      obtain ⟨e, he, h⟩ := null_of_entries converted null
      exact inner (List.mem_flatMap.mpr ⟨e, he, List.mem_pair.mpr (.inr rfl)⟩) h
    | record fields =>
      obtain ⟨ws, converted, rfl⟩ := map_eq_ok json
      obtain ⟨c, hc, h⟩ := null_of_fields converted null
      exact inner hc h
    | recordVariant name fields =>
      obtain ⟨ws, converted, rfl⟩ := map_eq_ok json
      obtain ⟨c, hc, h⟩ := null_of_fields converted (null_of_tagged null)
      exact inner hc h
    | whole n =>
      obtain ⟨k, rfl⟩ := number_of_whole json
      exact absurd null (not_null_occursIn nofun rfl)
    | single x =>
      obtain ⟨k, rfl⟩ := number_of_single sound json
      exact absurd null (not_null_occursIn nofun rfl)
    | double x =>
      obtain ⟨k, rfl⟩ := number_of_double sound json
      exact absurd null (not_null_occursIn nofun rfl)
    | bytes bs =>
      cases json
      obtain ⟨c, mem, occurs⟩ := exists_child_of_null null nofun
      obtain ⟨b, _, rfl⟩ := List.mem_map.mp mem
      exact absurd occurs (not_null_occursIn nofun rfl)
    | bool | char | text | variant =>
      cases json
      exact absurd null (not_null_occursIn nofun rfl)
    | refused message => cases sound

end Nulls

end Encodable

/-- A floating-point number without a JSON form anywhere in a value makes storing it fail, and the
registers stay as they were. Where storing succeeds, null stands only for an absent option or a unit. -/
theorem put_loses_no_number (v : Encodable) (rs : Registers) (name key : String) :
    ((∃ u : Encodable, u.OccursIn v ∧ u.IsNonFinite) →
      ∃ cause, (Operation.put name key v).perform rs = .error (.put (.encode key cause)) rs) ∧
    ∀ answer rs', (Operation.put name key v).perform rs = .ok answer rs' →
      ∃ w, (rs' name).find? key = some w ∧
        (Value.OccursIn .null w → ∃ u : Encodable, u.OccursIn v ∧ u.IsVoid) := by
  refine ⟨fun ⟨u, occurs, nonFinite⟩ => ?_, fun answer rs' performed => ?_⟩
  · obtain ⟨cause, refused⟩ := Encodable.encode_nonFinite occurs nonFinite
    exact ⟨cause, by rw [Operation.perform_put, refused]⟩
  · rw [Operation.perform_put] at performed
    split at performed
    · rename_i w encoded
      obtain ⟨sound, json⟩ := Encodable.encode_eq_ok encoded
      cases performed
      refine ⟨w, ?_, Encodable.exists_isVoid sound json⟩
      rw [Registers.set_self, find?_insert_self]
    · cases performed

end Extras

end ScreenNavigation
