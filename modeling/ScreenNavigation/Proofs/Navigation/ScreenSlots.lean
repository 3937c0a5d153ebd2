import ScreenNavigation.Navigation.Screens
import ScreenNavigation.Proofs.Navigation.Slots

/-! The two kinds of screen values as slots. What is read after writing them is what was written, save for
absent values, which give way to the extras they were written into. -/
namespace ScreenNavigation.Navigation

open Extras (Shape)

namespace DetailValues

def slots (v : DetailValues) : List Slot :=
  [⟨"id", .integer .i32, some v.id⟩, ⟨"tag", .text, v.tag⟩, ⟨"page", .integer .u32, some v.page⟩,
    ⟨"score", .double, some v.score⟩, ⟨"labels", .list .text, v.labels⟩, ⟨"owner", .owner, v.owner⟩,
    ⟨"count", .integer .i32, some v.count⟩]

/-- The values that are read once these have been written into extras. -/
def writtenInto (v : DetailValues) (e : Extras) : DetailValues where
  id := v.id
  tag := v.tag <|> e.get? .text "tag" <|> some defaultTag
  page := v.page
  score := v.score
  labels := v.labels <|> e.get? (.list .text) "labels"
  owner := v.owner <|> e.get? .owner "owner"
  count := v.count

variable {v : DetailValues} {e e' : Extras}

theorem write_eq (v : DetailValues) : v.write = Slot.writeAll v.slots := by
  simp only [write, slots, Slot.writeAll, Slot.write, bind_pure_unit]
  rfl

theorem slots_storable {x : Decimal.Double} (finite : v.score = .finite x) :
    ∀ slot ∈ v.slots, slot.IsStorable := by
  simp only [slots, List.forall_mem_cons, Slot.IsStorable, Option.mem_def, Option.some.injEq,
    forall_eq']
  refine ⟨Shape.storable_integer _, fun t _ => Shape.storable_text t, Shape.storable_integer _, ?_,
    fun ts _ => Shape.storable_list fun t _ => Shape.storable_text t,
    fun o _ => Shape.storable_owner o, Shape.storable_integer _, List.forall_mem_nil _⟩
  rw [finite]
  exact Shape.storable_double x

/-- What is written in front of the score can always be stored. -/
theorem first_slots_storable (v : DetailValues) : ∀ slot ∈ v.slots.take 3, slot.IsStorable := by
  simp only [slots, List.take_succ_cons, List.take_zero, List.forall_mem_cons, Slot.IsStorable,
    Option.mem_def, Option.some.injEq, forall_eq']
  exact ⟨Shape.storable_integer _, fun t _ => Shape.storable_text t, Shape.storable_integer _,
    List.forall_mem_nil _⟩

theorem read_of_written (h : Slot.Written v.slots e e') : read e' = v.writtenInto e := by
  have own := h.own
  simp only [slots, List.forall_mem_cons] at own
  obtain ⟨id, tag, page, score, labels, owner, count, _⟩ := own
  simp only [read, writtenInto, Extras.getOr, id, tag, page, score, labels, owner, count]
  cases v.tag <;> rfl

theorem writtenInto_empty (v : DetailValues) :
    v.writtenInto .empty = { v with tag := some (v.tag.getD "none") } := by
  obtain ⟨id, tag, page, score, labels, owner, count⟩ := v
  cases tag <;> cases labels <;> cases owner <;> rfl

/-- Values with a finite score can be written into any extras. -/
theorem write_ok {x : Decimal.Double} (finite : v.score = .finite x) (e : Extras) :
    ∃ e', v.write e = .ok () e' ∧ Slot.Written v.slots e e' := by
  have distinct : (v.slots.map (·.key)).Nodup := by
    change ["id", "tag", "page", "score", "labels", "owner", "count"].Nodup
    decide
  have storable := slots_storable finite
  exact ⟨_, v.write_eq ▸ Slot.writeAll_ok storable e, Slot.insertAll_written distinct storable e⟩

/-- A score without a JSON form stops the writing behind id, tag and page. -/
theorem write_error (infinite : ∀ x, v.score ≠ .finite x) (e : Extras) :
    ∃ cause, v.write e =
      .error (.encode "score" cause) (e.insertAll (Slot.written (v.slots.take 3))) := by
  obtain ⟨cause, refused⟩ : ∃ cause, (Shape.encodable .double v.score).encode = .error cause := by
    cases h : v.score with
    | finite x => exact absurd h (infinite x)
    | infinite negative => exact ⟨_, rfl⟩
    | nan => exact ⟨_, rfl⟩
  rw [write_eq]
  exact ⟨cause, Slot.writeAll_error (x := ⟨"score", .double, some v.score⟩) v.first_slots_storable
    rfl refused e⟩

end DetailValues

namespace CounterValues

def slots (v : CounterValues) : List Slot := [⟨"step", .integer .i64, v.step⟩]

/-- The values that are read once these have been written into extras. -/
def writtenInto (v : CounterValues) (e : Extras) : CounterValues where
  step := v.step <|> e.get? (.integer .i64) "step" <|> some defaultStep

variable {v : CounterValues} {e e' : Extras}

theorem write_eq (v : CounterValues) : v.write = Slot.writeAll v.slots := by
  simp only [write, slots, Slot.writeAll, Slot.write, bind_pure_unit]

theorem read_of_written (h : Slot.Written v.slots e e') : read e' = v.writtenInto e := by
  have own := h.own
  simp only [slots, List.forall_mem_cons] at own
  simp only [read, writtenInto, own.1]
  cases v.step <;> rfl

theorem writtenInto_empty (v : CounterValues) :
    v.writtenInto .empty = ⟨some (v.step.getD defaultStep)⟩ := by
  obtain ⟨step⟩ := v
  cases step <;> rfl

/-- Values of a counter can always be written. -/
theorem write_ok (v : CounterValues) (e : Extras) :
    ∃ e', v.write e = .ok () e' ∧ Slot.Written v.slots e e' := by
  have distinct : (v.slots.map (·.key)).Nodup := List.nodup_singleton _
  have storable : ∀ slot ∈ v.slots, slot.IsStorable := by
    intro slot hs
    cases List.mem_singleton.mp hs
    exact fun n _ => Shape.storable_integer n
  exact ⟨_, v.write_eq ▸ Slot.writeAll_ok storable e, Slot.insertAll_written distinct storable e⟩

end CounterValues

end ScreenNavigation.Navigation
