import Mathlib.Data.List.Basic
import ScreenNavigation.Builder.Emission

/-! When a builder or the list of modules has a text. Only illegal names are more than a reason to leave
one builder out, and they are met only where no members clash. -/
namespace ScreenNavigation.Builder

open Source

namespace Plan

variable {p : Plan} {s : Settings}

/-- The text of a builder does not depend on its module. -/
theorem emit_module (p : Plan) (module : String) (s : Settings) :
    Plan.emit { p with module := module } s = p.emit s := rfl

private theorem illegalName?_eq_none :
    p.illegalName? = none ↔
      Naming.isLegal p.name = true ∧ ∀ b ∈ p.storage, Naming.isLegal b.name = true := by
  simp [illegalName?, List.find?_eq_none]

/-- What the header says about a builder. -/
def title (p : Plan) : String := "Builder for `" ++ p.target.text ++ "` in `" ++ p.package ++ "`"

/-- Clashes are looked for first, then illegal names, and paths that do not fit at last. -/
theorem emit_cases (p : Plan) (s : Settings) :
    (p.clashes ≠ [] ∧ p.emit s = .error (.clashes p.name p.clashes)) ∨
    (p.clashes = [] ∧ ∃ name, p.illegalName? = some name ∧
      p.emit s = .error (.illegalName name)) ∨
    (p.clashes = [] ∧ p.illegalName? = none ∧ ∃ f, p.syntaxFault? s = some f ∧
      p.emit s = .error (.invalid f)) ∨
    (p.clashes = [] ∧ p.illegalName? = none ∧ p.syntaxFault? s = none ∧
      p.emit s = .ok (header p.title s ++ (p.code s).render)) := by
  rw [emit]
  cases hc : p.clashes with
  | cons first rest => exact .inl ⟨List.cons_ne_nil _ _, rfl⟩
  | nil =>
    cases hi : p.illegalName? with
    | some name => exact .inr (.inl ⟨rfl, name, rfl, rfl⟩)
    | none =>
      cases hf : p.syntaxFault? s with
      | some f => exact .inr (.inr (.inl ⟨rfl, rfl, f, rfl, rfl⟩))
      | none => exact .inr (.inr (.inr ⟨rfl, rfl, rfl, rfl⟩))

theorem emit_clashes_iff :
    (∃ names, p.emit s = .error (.clashes p.name names)) ↔ p.clashes ≠ [] := by
  rcases emit_cases p s with ⟨hc, he⟩ | ⟨hc, name, _, he⟩ | ⟨hc, _, f, _, he⟩ | ⟨hc, _, _, he⟩
  · simp [hc, he]
  · simp [hc, he]
  · simp [hc, he]
  · simp [hc, he]

/-- An illegal name is met only where no members clash. -/
theorem emit_illegalName_iff {name : String} :
    p.emit s = .error (.illegalName name) ↔ p.clashes = [] ∧ p.illegalName? = some name := by
  rcases emit_cases p s with ⟨hc, he⟩ | ⟨hc, other, hn, he⟩ | ⟨hc, hn, f, _, he⟩ | ⟨hc, hn, _, he⟩
  · simp [hc, he]
  · simp [hc, hn, he]
  · simp [hn, he]
  · simp [hn, he]

theorem emit_eq_ok_iff {code : String} : p.emit s = .ok code ↔
    (p.clashes = [] ∧ p.illegalName? = none ∧ p.syntaxFault? s = none) ∧
      code = header p.title s ++ (p.code s).render := by
  rcases emit_cases p s with ⟨hc, he⟩ | ⟨hc, name, hn, he⟩ | ⟨hc, hn, f, hf, he⟩ | ⟨hc, hn, hf, he⟩
  · simp [hc, he]
  · simp [hn, he]
  · simp [hf, he]
  · simp [hc, hn, hf, he, eq_comm]

/-- Where all fields have legal names, the builder's own name is the only one that can be illegal. -/
theorem illegalName?_eq_some_iff (legal : ∀ b ∈ p.storage, Naming.isLegal b.name = true)
    {name : String} :
    p.illegalName? = some name ↔ Naming.isLegal p.name = false ∧ name = p.name := by
  cases own : Naming.isLegal p.name with
  | true =>
    have none := illegalName?_eq_none.mpr ⟨own, legal⟩
    simp [none]
  | false => simp [illegalName?, own, eq_comm]

theorem isLegal_of_emit {code : String} (h : p.emit s = .ok code) : Naming.isLegal p.name = true :=
  (illegalName?_eq_none.mp (emit_eq_ok_iff.mp h).1.2.1).1

end Plan

/-- Legal names that are no reserved words always make a list of modules. -/
theorem emitModules_ok {entries : List ModuleEntry} (s : Settings)
    (legal : ∀ e ∈ entries, Naming.isLegal e.module = true ∧ Naming.isLegal e.builder = true)
    (unreserved : ∀ e ∈ entries, isReserved e.module = false ∧ isReserved e.builder = false) :
    ∃ list, emitModules entries s = .ok list := by
  have shown : ∀ e ∈ reexported entries, e ∈ entries := fun e he => (List.mem_filter.mp he).1
  have names : (entries.map (·.module) ++ (reexported entries).map (·.builder)).find?
      (!Naming.isLegal ·) = none := by
    rw [List.find?_eq_none]
    intro name hn
    rcases List.mem_append.mp hn with module | builder
    · obtain ⟨e, he, rfl⟩ := List.mem_map.mp module
      simp [(legal e he).1]
    · obtain ⟨e, he, rfl⟩ := List.mem_map.mp builder
      simp [(legal e (shown e he)).2]
  have modules : entries.findSome? moduleFault? = none := by
    rw [List.findSome?_eq_none_iff]
    intro e he
    rw [moduleFault?, (unreserved e he).1]
    rfl
  have builders : (reexported entries).findSome? reexportFault? = none := by
    rw [List.findSome?_eq_none_iff]
    intro e he
    obtain ⟨module, builder⟩ := unreserved e (shown e he)
    rw [reexportFault?, segmentFault?, segmentFault?, module, builder]
    rfl
  simp [emitModules, names, modules, builders]

end ScreenNavigation.Builder
