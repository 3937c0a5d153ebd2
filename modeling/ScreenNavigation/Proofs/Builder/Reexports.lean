import Mathlib.Data.List.Nodup
import Mathlib.Data.List.Perm.Basic
import ScreenNavigation.Proofs.Builder.Headers
import ScreenNavigation.Proofs.Naming.LegalNames

/-! The list of modules. Builders are told apart by the texts of their names, so a raw name counts as another
one than the plain name of the same identifier. -/
namespace ScreenNavigation.Builder

open Naming Source

/-- A line for each module, and behind them one for each builder that is visible without its module. -/
def moduleLines (s : Settings) (entries shown : List ModuleEntry) : List String :=
  entries.map (fun e => s.visibility.mark ++ "mod " ++ e.module ++ ";") ++
    shown.map fun e => s.visibility.mark ++ "use " ++ e.module ++ "::" ++ e.builder ++ ";"

/-- One of the names is the other in its raw form. -/
def AreTwins (a b : String) : Prop := a = "r#" ++ b ∨ b = "r#" ++ a

theorem not_areTwins_self (a : String) : ¬ AreTwins a a := by
  rw [AreTwins, or_self]
  intro same
  have lengths := congrArg (·.toList.length) same
  simp only [String.toList_append, List.length_append] at lengths
  have mark : "r#".toList.length = 2 := by decide
  omega

variable {entries : List ModuleEntry} {s : Settings}

theorem render_modulesCode (entries : List ModuleEntry) (s : Settings) :
    (modulesCode entries s).render = ended (moduleLines s entries (reexported entries)) := by
  refine File.render_of_lines rfl ?_
  simp only [modulesCode, moduleLines, List.map_append, List.map_map]
  rfl

/-- A builder is shown exactly when no other one has the same text as its name. -/
theorem mem_reexported_iff (distinct : (entries.map (·.module)).Nodup) {e : ModuleEntry}
    (he : e ∈ entries) :
    e ∈ reexported entries ↔ ∀ other ∈ entries, other.builder = e.builder → other = e := by
  have sharing {other : ModuleEntry} : other ∈ entries.filter (·.builder == e.builder) ↔
      other ∈ entries ∧ other.builder = e.builder := by
    rw [List.mem_filter, beq_iff_eq]
  rw [reexported, List.mem_filter, beq_iff_eq, List.countP_eq_length_filter]
  constructor
  · rintro ⟨_, single⟩ other ho same
    obtain ⟨only, all⟩ := List.length_eq_one_iff.mp single
    rw [all] at sharing
    rw [List.mem_singleton.mp (sharing.mpr ⟨ho, same⟩), List.mem_singleton.mp (sharing.mpr ⟨he, rfl⟩)]
  · intro alone
    have only : (entries.filter (·.builder == e.builder)).Perm [e] := by
      refine (List.perm_ext_iff_of_nodup (distinct.of_map.filter _) (List.nodup_singleton e)).mpr ?_
      intro other
      rw [sharing, List.mem_singleton]
      exact ⟨fun ⟨ho, same⟩ => alone other ho same, by rintro rfl; exact ⟨he, rfl⟩⟩
    exact ⟨he, only.length_eq⟩

theorem reexported_names_nodup (distinct : (entries.map (·.module)).Nodup) :
    ((reexported entries).map (·.builder)).Nodup := by
  refine List.Nodup.map_on ?_ (distinct.of_map.filter _)
  intro e he other ho same
  have listed := (List.mem_filter.mp ho).1
  exact (mem_reexported_iff distinct listed).mp ho e (List.mem_filter.mp he).1 same

section Identifiers

variable (distinct : (entries.map (·.module)).Nodup)
  (legal : ∀ e ∈ entries, isLegal e.builder = true)

include distinct legal

/-- A builder has an identifier of its own exactly when it is shown and no other builder is its twin. -/
theorem alone_iff {e : ModuleEntry} (he : e ∈ entries) :
    (∀ other ∈ entries, bare other.builder = bare e.builder → other = e) ↔
      e ∈ reexported entries ∧ ∀ other ∈ entries, ¬ AreTwins other.builder e.builder := by
  rw [mem_reexported_iff distinct he]
  constructor
  · intro alone
    refine ⟨fun other ho same => alone other ho (by rw [same]), fun other ho twins => ?_⟩
    have same := alone other ho ((bare_eq_bare_iff (legal other ho) (legal e he)).mpr (.inr twins))
    rw [same] at twins
    exact not_areTwins_self _ twins
  · rintro ⟨apart, single⟩ other ho same
    rcases (bare_eq_bare_iff (legal other ho) (legal e he)).mp same with text | twins
    · exact apart other ho text
    · exact absurd twins (single other ho)

/-- The shown builders have identifiers of their own exactly when no two of them are twins. -/
theorem reexported_identifiers_nodup_iff :
    ((reexported entries).map fun e => bare e.builder).Nodup ↔
      ∀ e ∈ reexported entries, ∀ other ∈ reexported entries, ¬ AreTwins other.builder e.builder := by
  have listed {e : ModuleEntry} (he : e ∈ reexported entries) : e ∈ entries :=
    (List.mem_filter.mp he).1
  constructor
  · intro apart e he other ho twins
    have alike := (bare_eq_bare_iff (legal other (listed ho)) (legal e (listed he))).mpr (.inr twins)
    have same := List.inj_on_of_nodup_map apart ho he alike
    rw [same] at twins
    exact not_areTwins_self _ twins
  · intro single
    refine List.Nodup.map_on ?_ (distinct.of_map.filter _)
    intro e he other ho same
    rcases (bare_eq_bare_iff (legal e (listed he)) (legal other (listed ho))).mp same with text | twins
    · exact (mem_reexported_iff distinct (listed ho)).mp ho e (listed he) text
    · exact absurd twins (single other ho e he)

end Identifiers

end ScreenNavigation.Builder
