import Mathlib.Data.List.Count
import ScreenNavigation.Proofs.Builder.EmissionFaults
import ScreenNavigation.Proofs.Builder.PlannedMembers

/-! The comments at the top of a file. They are five lines only where the title and the source are single
lines, since nothing in them is escaped. -/
namespace ScreenNavigation.Builder

open Declaration

/-- Lines one after the other, each with its end. -/
def ended (lines : List String) : String := String.join (lines.map (· ++ "\n"))

/-- One line that is a comment on its file. -/
structure IsComment (line : String) : Prop where
  marked : "//!".toList <+: line.toList
  single : '\n' ∉ line.toList

/-- Five comments, an empty line, and then the body. -/
def IsHeaded (code body : String) : Prop :=
  ∃ comments : List String, comments.length = 5 ∧ (∀ line ∈ comments, IsComment line) ∧
    code = ended comments ++ "\n" ++ body

section Lines

private theorem ended_nil : ended [] = "" := rfl

private theorem ended_cons (line : String) (rest : List String) :
    ended (line :: rest) = line ++ "\n" ++ ended rest := by
  rw [ended, List.map_cons, String.join_cons, ended]

private theorem count_ended_cons (line : String) (rest : List String) :
    (ended (line :: rest)).toList.count '\n' =
      line.toList.count '\n' + 1 + (ended rest).toList.count '\n' := by
  have lineEnd : "\n".toList.count '\n' = 1 := by decide
  rw [ended_cons, String.toList_append, String.toList_append, List.count_append, List.count_append,
    lineEnd]

private theorem length_le_count_ended (lines : List String) :
    lines.length ≤ (ended lines).toList.count '\n' := by
  induction lines with
  | nil => exact Nat.zero_le _
  | cons line rest ih =>
    rw [count_ended_cons, List.length_cons]
    omega

/-- Lines are as many as their ends exactly when each of them is a single line. -/
theorem count_ended_eq_length_iff (lines : List String) :
    (ended lines).toList.count '\n' = lines.length ↔ ∀ line ∈ lines, '\n' ∉ line.toList := by
  induction lines with
  | nil => exact ⟨nofun, fun _ => rfl⟩
  | cons line rest ih =>
    have behind := length_le_count_ended rest
    rw [List.forall_mem_cons, ← ih, ← List.count_eq_zero, count_ended_cons, List.length_cons]
    omega

private theorem isComment_append_iff {mark rest : String} (marked : "//!".toList <+: mark.toList)
    (single : '\n' ∉ mark.toList) : IsComment (mark ++ rest) ↔ '\n' ∉ rest.toList := by
  have whole : (mark ++ rest).toList = mark.toList ++ rest.toList := String.toList_append
  constructor
  · intro comment ends
    exact comment.single (whole ▸ List.mem_append_right _ ends)
  · intro free
    refine ⟨whole ▸ marked.trans (List.prefix_append _ _), fun ends => ?_⟩
    rw [whole] at ends
    rcases List.mem_append.mp ends with front | back
    · exact single front
    · exact free back

-- The texts are variables in these: as literals they would be compared character by character.
private theorem forall_five_iff {a b c d e : String} (h : ∀ line ∈ [a, b, e], IsComment line) :
    (∀ line ∈ [a, b, c, d, e], IsComment line) ↔ IsComment c ∧ IsComment d := by
  simp only [List.forall_mem_cons] at h ⊢
  exact ⟨fun ⟨_, _, third, fourth, _⟩ => ⟨third, fourth⟩,
    fun ⟨third, fourth⟩ => ⟨h.1, h.2.1, third, fourth, h.2.2⟩⟩

private theorem ended_five {a b c d e opening source generator closing : String}
    (title path made : String) (first : opening = a ++ "\n" ++ (b ++ "\n" ++ c))
    (second : source = "\n" ++ d) (third : generator = "\n" ++ e) (last : closing = "\n" ++ "\n") :
    opening ++ title ++ source ++ path ++ generator ++ made ++ closing =
      ended [a, b, c ++ title, d ++ path, e ++ made] ++ "\n" := by
  subst first second third last
  simp only [ended_cons, ended_nil, String.append_assoc, String.append_empty]

private theorem free_between_iff {a b c left right : String} (first : '\n' ∉ a.toList)
    (second : '\n' ∉ b.toList) (third : '\n' ∉ c.toList) :
    '\n' ∉ (a ++ left ++ b ++ right ++ c).toList ↔ '\n' ∉ left.toList ∧ '\n' ∉ right.toList := by
  simp only [String.toList_append, List.mem_append, first, second, third, false_or, or_false, not_or]

end Lines

section Headers

variable (title : String) (s : Settings)

private def headerLines : List String :=
  ["//! AUTO-GENERATED CODE - DO NOT EDIT!", "//!", "//! " ++ title, "//! Source: " ++ s.source,
    "//! Generated by `screen-starter-gen` v" ++ version]

private theorem header_eq : header title s = ended (headerLines title s) ++ "\n" :=
  ended_five title s.source version (by decide) (by decide) (by decide)
    (by decide)

private theorem headerLines_iff :
    (∀ line ∈ headerLines title s, IsComment line) ↔
      '\n' ∉ title.toList ∧ '\n' ∉ s.source.toList := by
  have fixed : ∀ line ∈ ["//! AUTO-GENERATED CODE - DO NOT EDIT!", "//!",
      "//! Generated by `screen-starter-gen` v" ++ version],
      "//!".toList <+: line.toList ∧ '\n' ∉ line.toList := by decide
  have comments := fun line hl => IsComment.mk (fixed line hl).1 (fixed line hl).2
  refine (forall_five_iff comments).trans (and_congr ?_ ?_)
  · exact isComment_append_iff (show "//!".toList <+: "//! ".toList by decide)
      (by decide)
  · exact isComment_append_iff (show "//!".toList <+: "//! Source: ".toList by decide)
      (by decide)

/-- In front of any body, the header is one exactly when nothing that it shows ends a line. -/
theorem isHeaded_header_iff (body : String) :
    IsHeaded (header title s ++ body) body ↔ '\n' ∉ title.toList ∧ '\n' ∉ s.source.toList := by
  rw [← headerLines_iff]
  constructor
  · rintro ⟨comments, five, single, same⟩
    -- Five comments end five lines, and the lines of the header are five as well.
    have front : (ended comments).toList = (ended (headerLines title s)).toList := by
      have joined := congrArg String.toList same
      rw [header_eq] at joined
      simp only [String.toList_append, List.append_assoc] at joined
      exact (List.append_cancel_right joined).symm
    have ends := (count_ended_eq_length_iff comments).mpr fun line hl => (single line hl).single
    rw [front, five] at ends
    have lines := (count_ended_eq_length_iff (headerLines title s)).mp ends
    refine (headerLines_iff title s).mpr ⟨fun inside => ?_, fun inside => ?_⟩
    · refine lines ("//! " ++ title) (.tail _ (.tail _ (.head _))) ?_
      rw [String.toList_append]
      exact List.mem_append_right _ inside
    · refine lines ("//! Source: " ++ s.source) (.tail _ (.tail _ (.tail _ (.head _)))) ?_
      rw [String.toList_append]
      exact List.mem_append_right _ inside
  · intro comments
    exact ⟨headerLines title s, rfl, comments, by rw [header_eq]⟩

end Headers

namespace Plan

variable {p : Plan} {s : Settings}

theorem title_free_iff : '\n' ∉ p.title.toList ↔
    '\n' ∉ p.target.text.toList ∧ '\n' ∉ p.package.toList :=
  free_between_iff (by decide) (by decide) (by decide)

theorem ofScreen_package (screen : Screen) (package : String) :
    ofScreen { screen with package := package } = { ofScreen screen with package := package } := by
  have builder : Screen.builderName { screen with package := package } = screen.builderName :=
    Screen.builderName_congr rfl
  have module : Screen.moduleName { screen with package := package } = screen.moduleName :=
    Screen.moduleName_congr rfl
  have members : membersOf { screen with package := package } = membersOf screen := by
    rw [membersOf, membersOf, Screen.required, Screen.required, Screen.optional, Screen.optional]
  rw [ofScreen, ofScreen, builder, module, members]

/-- The package of a plan is met in the header only. -/
theorem emit_package {code : String} (h : p.emit s = .ok code) (package : String) :
    Plan.emit { p with package := package } s =
      .ok (header (title { p with package := package }) s ++ (p.code s).render) :=
  emit_eq_ok_iff.mpr ⟨(emit_eq_ok_iff.mp h).1, rfl⟩

end Plan

theorem emitModules_eq_header {entries : List ModuleEntry} {s : Settings} {list : String}
    (h : emitModules entries s = .ok list) :
    list = header "Generated screen builders" s ++ (modulesCode entries s).render := by
  rw [emitModules] at h
  split at h
  · cases h
  · split at h
    · cases h
    · rw [Except.ok.injEq] at h
      exact h.symm

end ScreenNavigation.Builder
