import Mathlib.Data.List.Induction
import Mathlib.Data.List.Nodup
import ScreenNavigation.Extras.Registers
import ScreenNavigation.Proofs.Extras.Entries

/-! Registers over runs of operations. The keys of a register stand in the order in which they came in and
have stayed since, and the value of a key is the one that was written last. -/
namespace ScreenNavigation.Extras

open Json

/-- What happens to one register. -/
inductive Event where
  | write (key : String) (v : Value)
  | erase (key : String)
  | clear

namespace Event

def writes (key : String) : Event → Bool
  | .write k _ => k == key
  | _ => false

/-- A key that was there is gone after the event. -/
def drops (key : String) : Event → Bool
  | .write _ _ => false
  | .erase k => k == key
  | .clear => true

def apply (e : Extras) : Event → Extras
  | .write key v => e.insert key v
  | .erase key => (e.remove key).1
  | .clear => .empty

end Event

section Histories

/-- At some event `met` was the case, and for every event since then `kept` has been. -/
def Since (met : List Event → Event → Prop) (kept : Event → Prop) (h : List Event) : Prop :=
  ∃ before ev after, h = before ++ ev :: after ∧ met before ev ∧ ∀ later ∈ after, kept later

/-- The key is there after the history. -/
def Present (h : List Event) (key : String) : Prop :=
  Since (fun _ ev => ev.writes key) (fun ev => ev.drops key = false) h

/-- The key was written when it was absent, after `i` events, and has been there since. -/
def InsertedAt (h : List Event) (key : String) (i : Nat) : Prop :=
  Since (fun before ev => before.length = i ∧ ev.writes key ∧ ¬ Present before key)
    (fun ev => ev.drops key = false) h

/-- The value was written under the key, which no event has touched since. -/
def LastWritten (h : List Event) (key : String) (v : Value) : Prop :=
  Since (fun _ ev => ev = .write key v) (fun ev => ev.writes key = false ∧ ev.drops key = false) h

variable {met : List Event → Event → Prop} {kept : Event → Prop} {h : List Event} {ev : Event}

theorem since_concat : Since met kept (h ++ [ev]) ↔ met h ev ∨ kept ev ∧ Since met kept h := by
  constructor
  · rintro ⟨before, found, after, split, here, later⟩
    rcases List.eq_nil_or_concat after with rfl | ⟨rest, last, rfl⟩
    · obtain ⟨rfl, same⟩ := List.append_inj' split rfl
      cases same
      exact .inl here
    · rw [List.concat_eq_append, ← List.cons_append, ← List.append_assoc] at split
      obtain ⟨rfl, same⟩ := List.append_inj' split rfl
      cases same
      rw [List.concat_eq_append] at later
      exact .inr ⟨later _ List.mem_concat_self, before, found, rest, rfl, here,
        fun x hx => later x (List.mem_append_left _ hx)⟩
  · rintro (here | ⟨last, before, found, after, rfl, here, later⟩)
    · exact ⟨h, ev, [], rfl, here, nofun⟩
    · refine ⟨before, found, after ++ [ev], by simp, here, fun x hx => ?_⟩
      rcases List.mem_append.mp hx with old | new
      · exact later x old
      · rw [List.mem_singleton.mp new]
        exact last

theorem not_since_nil : ¬ Since met kept [] := by
  rintro ⟨before, found, after, split, _⟩
  simp at split

variable {key : String} {i : Nat} {v : Value}

theorem present_concat :
    Present (h ++ [ev]) key ↔ ev.writes key ∨ ev.drops key = false ∧ Present h key := since_concat

theorem lastWritten_concat : LastWritten (h ++ [ev]) key v ↔
    ev = .write key v ∨ (ev.writes key = false ∧ ev.drops key = false) ∧ LastWritten h key v :=
  since_concat

theorem InsertedAt.present (inserted : InsertedAt h key i) : Present h key := by
  obtain ⟨before, ev, after, split, ⟨_, writes, _⟩, later⟩ := inserted
  exact ⟨before, ev, after, split, writes, later⟩

theorem InsertedAt.lt_length (inserted : InsertedAt h key i) : i < h.length := by
  obtain ⟨before, ev, after, rfl, ⟨rfl, _⟩, _⟩ := inserted
  simp

/-- A key that stays was inserted where it was inserted before. -/
theorem insertedAt_concat_of_present (present : Present h key) (stays : ev.drops key = false) :
    InsertedAt (h ++ [ev]) key i ↔ InsertedAt h key i := by
  rw [InsertedAt, since_concat]
  constructor
  · rintro (⟨_, _, absent⟩ | ⟨_, old⟩)
    · exact absurd present absent
    · exact old
  · exact fun old => .inr ⟨stays, old⟩

/-- A key that was absent is inserted by the event that writes it. -/
theorem insertedAt_concat_of_absent (absent : ¬ Present h key) (writes : ev.writes key) :
    InsertedAt (h ++ [ev]) key i ↔ i = h.length := by
  rw [InsertedAt, since_concat]
  constructor
  · rintro (⟨rfl, _⟩ | ⟨_, old⟩)
    · rfl
    · exact absurd (InsertedAt.present old) absent
  · rintro rfl
    exact .inl ⟨rfl, writes, absent⟩

theorem InsertedAt.unique {j : Nat} (first : InsertedAt h key i) (second : InsertedAt h key j) :
    i = j := by
  induction h using List.reverseRecOn with
  | nil => exact absurd first not_since_nil
  | append_singleton h ev ih =>
    rcases since_concat.mp first with ⟨rfl, _, absent⟩ | ⟨_, earlier⟩
    · rcases since_concat.mp second with ⟨rfl, _⟩ | ⟨_, old⟩
      · rfl
      · exact absurd (InsertedAt.present old) absent
    · rcases since_concat.mp second with ⟨_, _, absent⟩ | ⟨_, old⟩
      · exact absurd (InsertedAt.present earlier) absent
      · exact ih earlier old

end Histories

namespace Event

variable {ev : Event} {key : String}

theorem drops_of_writes (h : ev.writes key) : ev.drops key = false := by
  cases ev with
  | write => rfl
  | erase => cases h
  | clear => cases h

/-- The key that the event appends, if it writes one that is absent. -/
def added (e : Extras) : Event → List String
  | .write key _ => if key ∈ e.keys then [] else [key]
  | .erase _ => []
  | .clear => []

theorem mem_added {e : Extras} : key ∈ ev.added e ↔ ev.writes key ∧ key ∉ e.keys := by
  cases ev with
  | write k v =>
    by_cases old : k ∈ e.keys
    · simp only [added, if_pos old, writes, beq_iff_eq, List.not_mem_nil, false_iff]
      rintro ⟨rfl, new⟩
      exact new old
    · simp only [added, if_neg old, writes, beq_iff_eq, List.mem_singleton]
      constructor
      · rintro rfl
        exact ⟨rfl, old⟩
      · exact fun h => h.1.symm
  | erase => simp [added, writes]
  | clear => simp [added, writes]

/-- An event adds one key at most. -/
theorem pairwise_added {R : String → String → Prop} (ev : Event) (e : Extras) :
    (ev.added e).Pairwise R := by
  cases ev with
  | write key v =>
    rw [added]
    split
    · exact List.Pairwise.nil
    · exact List.pairwise_singleton R key
  | erase => exact List.Pairwise.nil
  | clear => exact List.Pairwise.nil

/-- The keys that stay keep their order, and a new key goes to the end. -/
theorem keys_apply (ev : Event) (e : Extras) :
    (ev.apply e).keys = e.keys.filter (fun key => !ev.drops key) ++ ev.added e := by
  cases ev with
  | write key v =>
    have all : e.keys.filter (fun k => !(Event.write key v).drops k) = e.keys := by
      simp [drops]
    rw [all, apply, added, keys_insert]
  | erase key =>
    rw [apply, keys_remove, added, List.append_nil]
    congr 1
    funext k
    rw [drops, bne, Bool.beq_comm]
  | clear => simp [apply, added, drops, Extras.empty, keys]

theorem find?_apply (ev : Event) (e : Extras) (key : String) (v : Value) :
    (ev.apply e).find? key = some v ↔
      ev = .write key v ∨ (ev.writes key = false ∧ ev.drops key = false) ∧ e.find? key = some v := by
  cases ev with
  | write k w =>
    by_cases same : k = key
    · subst same
      simp [apply, writes]
    · simp [apply, writes, drops, same, find?_insert_of_ne e (Ne.symm same)]
  | erase k =>
    by_cases same : k = key
    · subst same
      simp [apply, drops, find?_remove_self]
    · simp [apply, writes, drops, same, find?_remove_of_ne e (Ne.symm same)]
  | clear => simp [apply, drops, Extras.empty, find?]

end Event

/-- A register holds what its history left. -/
structure Reflects (h : List Event) (e : Extras) : Prop where
  distinct : e.keys.Nodup
  present (key : String) : key ∈ e.keys ↔ Present h key
  inserted : ∀ key ∈ e.keys, ∃! i, InsertedAt h key i
  ordered : e.keys.Pairwise fun k l => ∃ i j, InsertedAt h k i ∧ InsertedAt h l j ∧ i < j
  value (key : String) (v : Value) : e.find? key = some v ↔ LastWritten h key v

namespace Reflects

variable {h : List Event} {e : Extras}

theorem start : Reflects [] .empty where
  distinct := List.nodup_nil
  present _ := iff_of_false List.not_mem_nil not_since_nil
  inserted _ mem := absurd mem List.not_mem_nil
  ordered := List.Pairwise.nil
  value _ _ := iff_of_false nofun not_since_nil

theorem event (r : Reflects h e) (ev : Event) : Reflects (h ++ [ev]) (ev.apply e) := by
  -- behind the old keys that stay, for which the history says what it said, comes one new key at most
  have old {key : String} : key ∈ e.keys.filter (fun key => !ev.drops key) ↔
      ev.drops key = false ∧ Present h key := by
    rw [List.mem_filter, r.present, Bool.not_eq_true', and_comm]
  have new {key : String} : key ∈ ev.added e ↔ ev.writes key ∧ ¬ Present h key := by
    rw [Event.mem_added, r.present]
  have stays {key : String} (mem : key ∈ e.keys.filter (fun key => !ev.drops key)) (i : Nat) :
      InsertedAt (h ++ [ev]) key i ↔ InsertedAt h key i :=
    insertedAt_concat_of_present (old.mp mem).2 (old.mp mem).1
  have comes {key : String} (mem : key ∈ ev.added e) : InsertedAt (h ++ [ev]) key h.length :=
    (insertedAt_concat_of_absent (new.mp mem).2 (new.mp mem).1).mpr rfl
  constructor
  case distinct =>
    rw [Event.keys_apply]
    refine (r.distinct.filter _).append (ev.pairwise_added e) fun key stayed added => ?_
    exact (new.mp added).2 (old.mp stayed).2
  case present =>
    intro key
    rw [Event.keys_apply, List.mem_append, old, new, present_concat]
    constructor
    · rintro (⟨kept, present⟩ | ⟨writes, _⟩)
      · exact .inr ⟨kept, present⟩
      · exact .inl writes
    · rintro (writes | stayed)
      · by_cases present : Present h key
        · exact .inl ⟨Event.drops_of_writes writes, present⟩
        · exact .inr ⟨writes, present⟩
      · exact .inl stayed
  case inserted =>
    intro key mem
    rw [Event.keys_apply] at mem
    rcases List.mem_append.mp mem with stayed | added
    · simp only [stays stayed]
      exact r.inserted key (List.mem_of_mem_filter stayed)
    · exact ⟨h.length, comes added, fun i other => other.unique (comes added)⟩
  case ordered =>
    rw [Event.keys_apply, List.pairwise_append]
    refine ⟨?_, ?_, fun k stayed l added => ?_⟩
    · refine (r.ordered.filter _).imp_of_mem fun {k l} hk hl => ?_
      rintro ⟨i, j, at_i, at_j, lt⟩
      exact ⟨i, j, (stays hk i).mpr at_i, (stays hl j).mpr at_j, lt⟩
    · exact ev.pairwise_added e
    · obtain ⟨i, at_i, _⟩ := r.inserted k (List.mem_of_mem_filter stayed)
      exact ⟨i, h.length, (stays stayed i).mpr at_i, comes added, at_i.lt_length⟩
  case value =>
    intro key v
    rw [Event.find?_apply, r.value, lastWritten_concat]

theorem events (r : Reflects h e) (evs : List Event) :
    Reflects (h ++ evs) (evs.foldl Event.apply e) := by
  induction evs generalizing h e with
  | nil => rwa [List.append_nil]
  | cons ev evs ih =>
    rw [List.foldl_cons, List.append_cons]
    exact ih (r.event ev)

end Reflects

def Event.writing (es : List (String × Value)) : List Event := es.map fun (key, v) => .write key v

theorem Event.foldl_writing (es : List (String × Value)) (e : Extras) :
    (writing es).foldl apply e = e.insertAll es := by
  rw [writing, List.foldl_map, insertAll]
  rfl

namespace Operation

/-- What an operation does to its register, event by event. One that fails does nothing. -/
def events (rs : Registers) : Operation → List Event
  | .new _ => [.clear]
  | .put _ key v =>
    match v.encode with
    | .ok w => [.write key w]
    | .error _ => []
  | .remove _ key => [.erase key]
  | .putAll _ other => Event.writing (rs other).entries
  | .load _ text =>
    match Extras.readEntries text with
    | .ok es => .clear :: Event.writing es
    | .error _ => []

variable {rs rs' : Registers}

theorem perform_error {op : Operation} {fault : OperationFault}
    (h : op.perform rs = .error fault rs') : rs' = rs := by
  cases op with
  | new => cases h
  | put name key v =>
    rw [perform_put] at h
    cases encoded : v.encode <;> rw [encoded] at h <;> cases h
    rfl
  | remove => cases h
  | putAll => cases h
  | load name text =>
    rw [perform] at h
    cases read : Extras.read text <;> rw [read] at h <;> cases h
    rfl

theorem after_put {name key : String} {v : Encodable} {w : Value} (encoded : v.encode = .ok w) :
    (Operation.put name key v).after rs = rs.set name ((rs name).insert key w) := by
  rw [after, perform_put, encoded]

theorem after_remove (rs : Registers) (name key : String) :
    (Operation.remove name key).after rs = rs.set name ((rs name).remove key).1 := rfl

/-- An operation touches its own register only, and that one event by event. -/
theorem after_eq (op : Operation) (rs : Registers) :
    op.after rs = rs.set op.on ((op.events rs).foldl Event.apply (rs op.on)) := by
  cases op with
  | new name => rfl
  | put name key v =>
    cases encoded : v.encode with
    | ok w =>
      rw [after_put encoded, events, encoded]
      rfl
    | error cause =>
      rw [after, perform_put, events, encoded]
      exact (Registers.set_same rs name).symm
  | remove name key => rfl
  | putAll name other =>
    rw [events, Event.foldl_writing]
    rfl
  | load name text =>
    rw [after, perform, events, Extras.read]
    cases Extras.readEntries text with
    | ok es =>
      simp only [List.foldl_cons, Event.foldl_writing]
      rfl
    | error fault => exact (Registers.set_same rs name).symm

end Operation

/-- All that has happened to a register in operations from `rs` on. -/
def history (rs : Registers) (name : String) : List Operation → List Event
  | [] => []
  | op :: ops => (if name = op.on then op.events rs else []) ++ history (op.after rs) name ops

theorem Reflects.run {h : List Event} {rs : Registers} {name : String} (r : Reflects h (rs name))
    (ops : List Operation) : Reflects (h ++ history rs name ops) (rs.run ops name) := by
  induction ops generalizing h rs with
  | nil => rwa [history, List.append_nil]
  | cons op ops ih =>
    rw [history, ← List.append_assoc]
    refine ih ?_
    rw [Operation.after_eq]
    by_cases same : name = op.on
    · rw [if_pos same, same, Registers.set_self]
      exact (same ▸ r).events _
    · rw [if_neg same, Registers.set_of_ne _ same, List.append_nil]
      exact r

/-- After any operations, every register holds what its history left, and operations that fail leave
no trace. -/
theorem registers_reflect_history :
    (∀ (ops : List Operation) (name : String),
      Reflects (history .empty name ops) (Registers.empty.run ops name)) ∧
    (∀ (rs rs' : Registers) (op : Operation) (fault : OperationFault),
      op.perform rs = .error fault rs' → rs' = rs) ∧
    (∀ (rs : Registers) (name key : String) (v : Encodable) (w : Value), v.encode = .ok w →
      (key ∈ (rs name).keys → (rs.run [.put name key v] name).keys = (rs name).keys) ∧
      (rs.run [.remove name key, .put name key v] name).keys =
        (rs name).keys.filter (· != key) ++ [key]) ∧
    ∀ (rs : Registers) (name key : String),
      (rs.run [.remove name key] name).keys = (rs name).keys.filter (· != key) := by
  refine ⟨fun ops name => ?_, fun _ _ _ _ => Operation.perform_error, ?_, fun rs name key => ?_⟩
  · have start : Reflects [] (Registers.empty name) := Reflects.start
    exact start.run ops
  · intro rs name key v w encoded
    simp only [Registers.run_cons, Registers.run_nil, Operation.after_put encoded,
      Operation.after_remove, Registers.set_self]
    refine ⟨fun old => keys_insert_of_mem old w, ?_⟩
    rw [keys_insert_of_notMem (notMem_keys_remove _ key), keys_remove]
  · rw [Registers.run_cons, Registers.run_nil, Operation.after_remove, Registers.set_self, keys_remove]

example : (Registers.empty.run [.put "r" "a" (.bool true), .put "r" "b" .unit,
    .put "r" "a" .unit, .put "r" "c" (.double .nan), .putAll "s" "r", .remove "r" "a",
    .put "r" "a" .unit] "r").keys = ["b", "a"] := by decide

end ScreenNavigation.Extras
