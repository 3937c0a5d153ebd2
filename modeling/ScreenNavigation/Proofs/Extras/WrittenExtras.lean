import ScreenNavigation.Extras.Registers
import ScreenNavigation.Proofs.Extras.Merging
import ScreenNavigation.Proofs.Json.WrittenValues

/-! Extras that were written, read again. A text may nest 127 lists and objects, of which the extras
themselves are one. -/
namespace ScreenNavigation.Extras

open Json Reader

variable {e : Extras} {es : List (String × Value)}

/-- Every entry is read, in order; inside a value the last of several entries of one key counts. -/
theorem readEntries_write (nested : ∀ x ∈ es, Nested 126 x.2) :
    readEntries (Value.object es).write = .ok (es.map fun x => (x.1, x.2.distinct)) := by
  have read : Gives (object "a map" (Reader.entries readEntry [])) (.ofText (Value.object es).write)
      (es.map fun x => (x.1, x.2.distinct)).reverse [] := by
    refine Gives.valueStart (toList_object es) (by decide) fun d left depth => ?_
    have level : d.depth = 128 := depth
    refine Gives.bracketed left (by omega) (fun d left _ => ?_) fun d => gives_objectEnd
    refine gives_entries es (fun x hx d taken rest _ behind front => ?_) left
    have value : Gives (entryValue x.1 value) d x.2.distinct rest :=
      gives_entryValue x.1 front fun d left _ => gives_value (nested x hx) (by omega) behind left
    exact value.bind fun d left _ => left ▸ .pure _ d
  rw [readEntries, run_eq read]
  exact congrArg Except.ok (List.reverse_reverse _)

theorem read_write (nested : ∀ x ∈ e.entries, Nested 126 x.2)
    (distinct : ∀ x ∈ e.entries, x.2.distinct = x.2) : read e.write = .ok e := by
  have same : (e.entries.map fun x => (x.1, x.2.distinct)) = e.entries := by
    refine (List.map_congr_left fun x hx => ?_).trans (List.map_id _)
    rw [distinct x hx]
    rfl
  rw [read, write, readEntries_write nested, same]
  exact congrArg Except.ok (empty_putAll e)

/-- A register loaded from the text of extras holds these extras, whatever it held before. -/
theorem perform_load_write (nested : ∀ x ∈ e.entries, Nested 126 x.2)
    (distinct : ∀ x ∈ e.entries, x.2.distinct = x.2) (name : String) (rs : Registers) :
    (Operation.load name e.write).perform rs = .ok none (rs.set name e) := by
  rw [Operation.perform, read_write nested distinct]

end ScreenNavigation.Extras
