import ScreenNavigation.Proofs.Source.Scanning

/-! Scanners take what they give. The text of a token is the text that it has in front of the input, and
what is left is an end of the input. -/
namespace ScreenNavigation.Source

open Text

namespace Scanner

/-- What the scanner gives and what it leaves are the input. -/
def IsExact (a : Scanner) : Prop := ∀ ⦃s text rest : List Char⦄, a s = some (text, rest) → s = text ++ rest

section Combined

variable {a b : Scanner}

theorem IsExact.orElse (ha : IsExact a) (hb : IsExact b) : IsExact (orElse a b) := fun s text rest h => by
  obtain first | ⟨_, second⟩ := Option.or_eq_some_iff.mp h
  · exact ha first
  · exact hb second

theorem IsExact.andThen (ha : IsExact a) (hb : IsExact b) : IsExact (andThen a b) := fun s text rest h => by
  obtain ⟨⟨x, more⟩, first, h⟩ := Option.bind_eq_some_iff.mp h
  obtain ⟨⟨y, after⟩, second, h⟩ := Option.bind_eq_some_iff.mp h
  cases h
  rw [ha first, hb second, List.append_assoc]

theorem IsExact.orNothing (ha : IsExact a) : IsExact (orNothing a) := fun s text rest h => by
  rw [Source.orNothing] at h
  cases found : a s with
  | none =>
    rw [found] at h
    cases h
    rfl
  | some p =>
    rw [found] at h
    cases h
    exact ha found

/-- What stands in front of a text that is read is given back with it. -/
theorem exact_behind (taken : List Char) {found : Option (List Char × List Char)} {s text rest : List Char}
    (exact : ∀ x r, found = some (x, r) → s = x ++ r)
    (h : found.map (fun p => (taken ++ p.1, p.2)) = some (text, rest)) : taken ++ s = text ++ rest := by
  obtain ⟨⟨x, r⟩, read, same⟩ := Option.map_eq_some_iff.mp h
  cases same
  rw [exact x r read, List.append_assoc]

/-- A scanner behind a character that it gives back. -/
theorem IsExact.behind (ha : IsExact a) {c : Char} {s text rest : List Char}
    (h : (a s).map (fun (x, r) => (c :: x, r)) = some (text, rest)) : c :: s = text ++ rest :=
  exact_behind [c] (fun _ _ => @ha s _ _) h

end Combined

end Scanner

open Scanner

/-- A step over blanks and comments goes on with an end of the text. -/
def Gap.Leaves (s : List Char) : Gap → Prop
  | .blank rest => rest <:+ s
  | .documentation _ _ rest => rest <:+ s
  | .broken => True
  | .nothing => True

namespace Gap

theorem Leaves.behind {g : Gap} {s : List Char} (h : g.Leaves s) (taken : List Char) :
    g.Leaves (taken ++ s) := by
  cases g with
  | blank rest => exact List.IsSuffix.trans h (List.suffix_append taken s)
  | documentation inner text rest => exact List.IsSuffix.trans h (List.suffix_append taken s)
  | broken => trivial
  | nothing => trivial

end Gap

end ScreenNavigation.Source
