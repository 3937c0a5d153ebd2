import ScreenNavigation.Proofs.Builder.MemberLists
import ScreenNavigation.Proofs.Generation.EmittedScreens

/-! The counts of a run. A concrete screen adds either a builder or a failure, and its fields count in both
cases. -/
namespace ScreenNavigation.Generation

open Builder Declaration

section Totals

variable {α β : Type}

/-- The sum of what each element adds. -/
def total (f : α → Nat) (l : List α) : Nat := l.foldr (fun a n => f a + n) 0

theorem total_map (f : β → Nat) (g : α → β) (l : List α) :
    total f (l.map g) = total (fun a => f (g a)) l := by
  rw [total, List.foldr_map, total]

theorem length_flatMap_eq_total (f : α → List β) (l : List α) :
    (l.flatMap f).length = total (fun a => (f a).length) l := by
  induction l with
  | nil => rfl
  | cons a rest ih => rw [List.flatMap_cons, List.length_append, ih, total, total, List.foldr_cons]

theorem countP_flatMap_eq_total (p : β → Bool) (f : α → List β) (l : List α) :
    (l.flatMap f).countP p = total (fun a => (f a).countP p) l := by
  induction l with
  | nil => rfl
  | cons a rest ih => rw [List.flatMap_cons, List.countP_append, ih, total, total, List.foldr_cons]

theorem length_eq_countP_add (p : α → Bool) (l : List α) :
    l.length = l.countP p + l.countP fun a => !p a := by
  have parts := List.length_eq_countP_add_countP p (l := l)
  simpa only [Bool.not_eq_true, Bool.decide_eq_false] using parts

end Totals

/-- The counts of a run agree with each other, with its files and warnings, and with the fields of the
concrete screens. -/
structure Balances (d : Manifest.Discovery) (s : Settings) (out : Output) : Prop where
  discovered : out.statistics.screens = d.screens.length
  abstractScreens : out.statistics.abstractScreens = d.screens.countP (·.isAbstract)
  screens : out.statistics.screens = out.statistics.abstractScreens + out.statistics.builders +
    out.warnings.countP (·.isSkipped)
  files : out.files.length = out.statistics.builders + 1
  /-- The files before the last one belong to the screens that can be emitted. -/
  emitted : List.Forall₂ (fun screen f => (Plan.ofScreen screen).emit s = .ok f.code)
    (d.emittable.filter (emits s)) out.files.dropLast
  /-- Also those of screens that were left out. -/
  fields : out.statistics.fields = total (·.fields.length) d.emittable
  divided : out.statistics.fields = out.statistics.required + out.statistics.optional
  privateFields : out.statistics.privateFields =
    total (fun screen => screen.fields.countP (·.isPrivate)) d.emittable
  members : out.statistics.members =
    total (fun screen => 2 * screen.fields.length + screen.optional.length + 10)
      (d.emittable.filter (emits s))

section Outcomes

variable {d : Manifest.Discovery} {s : Settings} {names : List String}

private theorem countP_warnings (s : Settings) (p : Screen × String) :
    (outcomeOf s p).warnings.countP (·.isSkipped) = if !emits s p.1 then 1 else 0 := by
  have renamed : (renameWarnings p).countP (·.isSkipped) = 0 := by
    rw [renameWarnings]
    split <;> rfl
  rw [warnings_outcomeOf, List.countP_append, renamed, Nat.zero_add, failureWarnings, emits]
  cases (Plan.ofScreen p.1).emit s with
  | ok code => rfl
  | error f => rfl

/-- A concrete screen without a builder has one failure. -/
theorem countP_skipped (placed : Placed [] d.emittable names)
    (same : outcomes d s = (d.emittable.zip names).map (outcomeOf s)) :
    ((outcomes d s).flatMap (·.warnings)).countP (·.isSkipped) =
      d.emittable.countP fun screen => !emits s screen :=
  calc ((outcomes d s).flatMap (·.warnings)).countP (·.isSkipped)
    _ = (d.emittable.zip names).countP fun p => !emits s p.1 := by
      rw [same, List.flatMap_map, countP_flatMap_of_ite (countP_warnings s)]
    _ = ((d.emittable.zip names).map Prod.fst).countP fun screen => !emits s screen := by
      rw [List.countP_map]
      rfl
    _ = _ := by rw [placed.map_fst_zip]

theorem length_succeeded (placed : Placed [] d.emittable names)
    (same : outcomes d s = (d.emittable.zip names).map (outcomeOf s)) :
    ((outcomes d s).filter (·.succeeded)).length = d.emittable.countP (emits s) := by
  rw [filter_succeeded same, List.length_map, List.countP_eq_length_filter, ← map_fst_made placed,
    List.length_map]

theorem length_screens (d : Manifest.Discovery) :
    d.screens.length = d.abstractCount + d.emittable.length := by
  rw [Manifest.Discovery.abstractCount, Manifest.Discovery.emittable,
    ← List.countP_eq_length_filter, ← List.countP_eq_length_filter]
  exact length_eq_countP_add _ _

theorem members_statistics (placed : Placed [] d.emittable names)
    (same : outcomes d s = (d.emittable.zip names).map (outcomeOf s)) :
    (statistics d (outcomes d s)).members =
      total (fun screen => 2 * screen.fields.length + screen.optional.length + 10)
        (d.emittable.filter (emits s)) :=
  calc (statistics d (outcomes d s)).members
    _ = total (fun o => o.job.plan.members.length) ((outcomes d s).filter (·.succeeded)) := rfl
    _ = total (fun p => (Plan.ofScreen p.1).members.length) (made d s names) := by
      rw [filter_succeeded same, total_map]
      rfl
    _ = total (fun screen => (Plan.ofScreen screen).members.length) (d.emittable.filter (emits s)) := by
      rw [← map_fst_made placed, total_map]
    _ = _ := by simp only [Plan.length_members_ofScreen]

private theorem balances {list : String} (placed : Placed [] d.emittable names)
    (same : outcomes d s = (d.emittable.zip names).map (outcomeOf s)) :
    Balances d s ⟨(outcomes d s).filterMap (·.file?) ++ [⟨moduleListName, list⟩],
      statistics d (outcomes d s), (outcomes d s).flatMap (·.warnings)⟩ where
  discovered := rfl
  abstractScreens := List.countP_eq_length_filter.symm
  screens := by
    have concrete := length_eq_countP_add (emits s) d.emittable
    have built := length_succeeded placed same
    have skipped := countP_skipped placed same
    have all := length_screens d
    simp only [statistics]
    omega
  files := by
    have listed := (files_of_made same).length_eq
    rw [List.length_append, List.length_singleton, ← listed]
    simp only [statistics, filter_succeeded same, List.length_map]
  emitted := by
    rw [List.dropLast_concat]
    exact emitted_files placed same
  fields := length_flatMap_eq_total _ _
  divided := by
    have parts := length_eq_countP_add (·.isOptional) (processedFields d)
    exact parts.trans (Nat.add_comm _ _)
  privateFields := countP_flatMap_eq_total _ _ _
  members := members_statistics placed same

/-- Whenever no illegal name stops a run, its counts balance. -/
theorem run_balances (m : Manifest) (check : Manifest.SubtypeCheck) (s : Settings)
    (legal : ∀ name, run (Manifest.discover m check) s ≠ .error (.illegalName name)) :
    ∃ out, run (Manifest.discover m check) s = .ok out ∧
      Balances (Manifest.discover m check) s out := by
  obtain ⟨names, list, placed, same, made, _⟩ | ⟨screen, _, name, _, stopped⟩ :=
    run_cases (Manifest.discover m check) s
  · exact ⟨_, made, balances placed same⟩
  · exact absurd stopped (legal name)

/-- A base screen without a builder, a screen whose optional field takes the name of a method, and one with a
required, an optional and a private field. -/
def counted : Manifest where
  baseType := Manifest.defaultBaseType
  classes := [
    ⟨.of "crate::Base" (.ofNames ["crate", "Base"]), none, .type, true, [Manifest.defaultBaseType]⟩,
    ⟨.of "crate::Cart" (.ofNames ["crate", "Cart"]), none, .type, false, [Manifest.defaultBaseType]⟩,
    ⟨.of "crate::Home" (.ofNames ["crate", "Home"]), none, .type, false, [Manifest.defaultBaseType]⟩]
  fields := [
    ⟨"crate::Base", .field, "title", .string, false, none⟩,
    ⟨"crate::Cart", .field, "start", .primitive .bool, false, some (.bool true)⟩,
    ⟨"crate::Home", .field, "id", .string, false, none⟩,
    ⟨"crate::Home", .field, "tab", .string, false, some (.string "all")⟩,
    ⟨"crate::Home", .field, "note", .string, true, none⟩]

theorem run_balances_counted :
    (∀ name, run (Manifest.discover counted fun _ _ => true) (.standard "") ≠
      .error (.illegalName name)) ∧
    ∃ out, run (Manifest.discover counted fun _ _ => true) (.standard "") = .ok out ∧
      Balances (Manifest.discover counted fun _ _ => true) (.standard "") out := by
  have made : ((run (Manifest.discover counted fun _ _ => true) (.standard "")).map (·.statistics)).toOption =
      some ⟨3, 1, 1, 17, 4, 2, 2, 1, 0⟩ := by decide +kernel
  exact ⟨not_illegal_of_made made, run_balances counted _ _ (not_illegal_of_made made)⟩

end Outcomes

end ScreenNavigation.Generation
