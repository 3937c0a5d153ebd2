import ScreenNavigation.Proofs.Extras.Decoding
import ScreenNavigation.Proofs.Navigation.ScreenSlots

/-! Values that were decoded once. Whatever the extras held, decoding fills in every default, so the
values can be saved and come back as they are. -/
namespace ScreenNavigation.Navigation

/-- Written into empty extras the values can be read back. -/
def Codec.Keeps {V : Type} (c : Codec V) (v : V) : Prop :=
  ∃ e, c.write v .empty = .ok () e ∧ c.read e = v

namespace DetailValues

variable {v : DetailValues}

theorem keeps {tag : String} (tagged : v.tag = some tag) {x : Decimal.Double}
    (finite : v.score = .finite x) : codec.Keeps v := by
  obtain ⟨e, written, all⟩ := v.write_ok finite .empty
  refine ⟨e, written, ?_⟩
  change read e = v
  rw [read_of_written all, writtenInto_empty, tagged, Option.getD_some, ← tagged]

theorem read_tag (e : Extras) : ∃ tag, (read e).tag = some tag := by
  change ∃ tag, (e.get? .text "tag" <|> some defaultTag) = some tag
  cases e.get? .text "tag" with
  | none => exact ⟨defaultTag, rfl⟩
  | some tag => exact ⟨tag, rfl⟩

theorem read_score (e : Extras) : ∃ x, (read e).score = .finite x :=
  Extras.getOr_double e "score" Decimal.Double.zero

theorem keeps_read (e : Extras) : codec.Keeps (read e) := by
  obtain ⟨_, tagged⟩ := read_tag e
  obtain ⟨_, finite⟩ := read_score e
  exact keeps tagged finite

end DetailValues

namespace CounterValues

variable {v : CounterValues}

theorem keeps {step : Extras.Integer .i64} (present : v.step = some step) : codec.Keeps v := by
  obtain ⟨e, written, all⟩ := v.write_ok .empty
  refine ⟨e, written, ?_⟩
  change read e = v
  rw [read_of_written all, writtenInto_empty, present, Option.getD_some, ← present]

theorem read_step (e : Extras) : ∃ step, (read e).step = some step := by
  change ∃ step, (e.get? (.integer .i64) "step" <|> some defaultStep) = some step
  cases e.get? (.integer .i64) "step" with
  | none => exact ⟨defaultStep, rfl⟩
  | some step => exact ⟨step, rfl⟩

theorem keeps_read (e : Extras) : codec.Keeps (read e) := by
  obtain ⟨_, present⟩ := read_step e
  exact keeps present

end CounterValues

private theorem settles {V : Type} {c : Codec V} (keeps : ∀ e, c.Keeps (c.read e)) (e : Extras)
    (a b : Screen V) : ∃ saved,
      (a.inject c (some e)).saveState c .empty = .ok () saved ∧
        (b.inject c (some saved)).values = (a.inject c (some e)).values ∧
        (b.inject c (some saved)).saveState c .empty = .ok () saved := by
  obtain ⟨saved, written, back⟩ := keeps e
  refine ⟨saved, written, back, ?_⟩
  rw [Screen.saveState, Screen.inject]
  change c.write (c.read saved) .empty = .ok () saved
  rw [back, written]

/-- A screen that took its values from any extras can be saved into empty ones. Another screen that takes
its values from there has the same, and saves them as the same entries in the same order. -/
theorem decoding_settles :
    (∀ (e : Extras) (a b : Detail), ∃ a' b' saved,
      (Instance.detail a).injectDetail (some e) = .detail a' ∧
        (Instance.detail a').saveDetail .empty = .ok () saved ∧
        (Instance.detail b).injectDetail (some saved) = .detail b' ∧
        b'.values = a'.values ∧
        (Instance.detail b').saveDetail .empty = .ok () saved) ∧
    ∀ (e : Extras) (a b : Counter), ∃ a' b' saved,
      (Instance.counter a).injectCounter (some e) = .counter a' ∧
        (Instance.counter a').saveCounter .empty = .ok () saved ∧
        (Instance.counter b).injectCounter (some saved) = .counter b' ∧
        b'.values = a'.values ∧
        (Instance.counter b').saveCounter .empty = .ok () saved := by
  refine ⟨?_, ?_⟩
  · intro e a b
    obtain ⟨saved, written, same, again⟩ := settles DetailValues.keeps_read e a b
    exact ⟨_, _, saved, rfl, written, rfl, same, again⟩
  · intro e a b
    obtain ⟨saved, written, same, again⟩ := settles CounterValues.keeps_read e a b
    exact ⟨_, _, saved, rfl, written, rfl, same, again⟩

end ScreenNavigation.Navigation
