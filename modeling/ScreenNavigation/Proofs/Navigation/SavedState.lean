import ScreenNavigation.Proofs.Navigation.ScreenSlots

/-! Saving a detail screen into extras that hold something already. Absent values are left out, so what an
earlier save stored for them comes back. -/
namespace ScreenNavigation.Navigation

open Extras (Shape)

variable {v : DetailValues}

private theorem restored {x : Decimal.Double} (finite : v.score = .finite x) (screen other : Detail)
    (same : screen.values = v) (e : Extras) :
    ∃ e', (Instance.detail screen).saveDetail e = .ok () e' ∧
      (Instance.detail other).injectDetail (some e') =
        .detail { other with values := v.writtenInto e } := by
  subst same
  obtain ⟨e', written, all⟩ := screen.values.write_ok finite e
  refine ⟨e', written, ?_⟩
  rw [← DetailValues.read_of_written all, Instance.injectDetail, Screen.inject]
  rfl

private theorem writtenInto_of_tag {tag : String} (present : v.tag = some tag) (e : Extras) :
    v.writtenInto e = { v with
      labels := v.labels <|> e.get? (.list .text) "labels"
      owner := v.owner <|> e.get? .owner "owner" } := by
  simp only [DetailValues.writtenInto, present]
  rfl

private theorem orElse_eq_self {α : Type} {a b : Option α} : (a <|> b) = a ↔ (a = none → b = none) := by
  cases a with
  | none => exact ⟨fun same _ => same, fun absent => absent rfl⟩
  | some x => exact ⟨nofun, fun _ => rfl⟩

private theorem detail_eq_iff (other : Detail) (v : DetailValues) (labels : Option (List String))
    (owner : Option Extras.Owner) :
    Instance.detail { other with values := { v with labels := labels, owner := owner } } =
        .detail { other with values := v } ↔ labels = v.labels ∧ owner = v.owner := by
  obtain ⟨id, tag, page, score, labels', owner', count⟩ := v
  simp only [Instance.detail.injEq, Screen.mk.injEq, DetailValues.mk.injEq, and_true, true_and]

/-- A saved screen is restored but for its absent labels and owner, which are what the extras held
before. It is restored exactly when they held neither of those that are absent. -/
theorem saveState_restores (screen other : Detail) (e : Extras) {tag : String}
    (present : screen.values.tag = some tag) {x : Decimal.Double}
    (finite : screen.values.score = .finite x) :
    ∃ e', (Instance.detail screen).saveDetail e = .ok () e' ∧
      (Instance.detail other).injectDetail (some e') =
        .detail { other with values := { screen.values with
          labels := screen.values.labels <|> e.get? (.list .text) "labels"
          owner := screen.values.owner <|> e.get? .owner "owner" } } ∧
      ((Instance.detail other).injectDetail (some e') =
          .detail { other with values := screen.values } ↔
        (screen.values.labels = none → e.get? (.list .text) "labels" = none) ∧
          (screen.values.owner = none → e.get? .owner "owner" = none)) := by
  obtain ⟨e', saved, back⟩ := restored finite screen other rfl e
  rw [writtenInto_of_tag present] at back
  refine ⟨e', saved, back, ?_⟩
  rw [back, detail_eq_iff, orElse_eq_self, orElse_eq_self]

/-- A screen that has a tag and no labels. -/
def unlabelled : Detail :=
  { Detail.initial with values := { DetailValues.initial with tag := some "t" } }

/-- What an earlier save of labels has left in extras. -/
def leftover : Extras := Extras.empty.insert "labels" (.array [.string "old"])

theorem saveState_restores_unlabelled :
    unlabelled.values.tag = some "t" ∧
      unlabelled.values.score = .finite Decimal.Double.zero ∧
      ∃ e', (Instance.detail unlabelled).saveDetail leftover = .ok () e' ∧
        ¬ (Instance.detail .initial).injectDetail (some e') =
          .detail { Detail.initial with values := unlabelled.values } := by
  have tagged : unlabelled.values.tag = some "t" := rfl
  have finite : unlabelled.values.score = .finite Decimal.Double.zero := rfl
  obtain ⟨e', saved, _, exactly⟩ := saveState_restores unlabelled .initial leftover tagged finite
  refine ⟨tagged, finite, e', saved, fun back => ?_⟩
  have none := (exactly.mp back).1 rfl
  cases none

/-- Labels of an earlier save come back on a screen that has none. -/
theorem saveState_keeps_leftover :
    ∃ e', (Instance.detail unlabelled).saveDetail leftover = .ok () e' ∧
      (Instance.detail .initial).injectDetail (some e') =
        .detail { Detail.initial with values := { unlabelled.values with labels := some ["old"] } } ∧
      unlabelled.values.labels = none := by
  have finite : unlabelled.values.score = .finite Decimal.Double.zero := rfl
  have shown : unlabelled.values.writtenInto leftover =
      { unlabelled.values with labels := some ["old"] } := by decide
  obtain ⟨e', saved, back⟩ := restored finite unlabelled .initial rfl leftover
  rw [shown] at back
  exact ⟨e', saved, back, rfl⟩

end ScreenNavigation.Navigation
