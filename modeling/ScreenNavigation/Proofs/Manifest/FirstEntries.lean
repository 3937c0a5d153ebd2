import Mathlib.Data.List.Nodup
import Mathlib.Data.List.Perm.Basic

/-! Lists in which only the first of several entries with one key counts. -/
namespace ScreenNavigation.Manifest

variable {α : Type} {key : α → String} {k : String} {l l' : List α} {a : α}

/-- The entries whose key no earlier entry has. -/
def firsts (key : α → String) : List α → List α
  | [] => []
  | a :: rest => a :: (firsts key rest).filter (key · != key a)

theorem firsts_sublist (key : α → String) (l : List α) : (firsts key l).Sublist l := by
  induction l with
  | nil => exact .slnil
  | cons a rest ih => exact (List.filter_sublist.trans ih).cons_cons a

theorem mem_map_firsts : k ∈ (firsts key l).map key ↔ k ∈ l.map key := by
  induction l with
  | nil => exact Iff.rfl
  | cons a rest ih =>
    have kept : k ∈ ((firsts key rest).filter (key · != key a)).map key ↔
        k ∈ rest.map key ∧ k ≠ key a := by
      simp only [← ih, List.mem_map, List.mem_filter, bne_iff_ne]
      constructor
      · rintro ⟨b, ⟨hb, other⟩, rfl⟩
        exact ⟨⟨b, hb, rfl⟩, other⟩
      · rintro ⟨⟨b, hb, rfl⟩, other⟩
        exact ⟨b, ⟨hb, other⟩, rfl⟩
    rw [firsts, List.map_cons, List.map_cons, List.mem_cons, List.mem_cons, kept]
    by_cases same : k = key a
    · simp [same]
    · simp [same]

theorem nodup_map_firsts (key : α → String) (l : List α) : ((firsts key l).map key).Nodup := by
  induction l with
  | nil => exact List.nodup_nil
  | cons a rest ih =>
    rw [firsts, List.map_cons, List.nodup_cons]
    refine ⟨?_, ih.sublist (List.filter_sublist.map key)⟩
    intro again
    obtain ⟨b, hb, same⟩ := List.mem_map.mp again
    exact bne_iff_ne.mp (List.mem_filter.mp hb).2 same

theorem firsts_concat (key : α → String) (l : List α) (a : α) :
    firsts key (l ++ [a]) = if key a ∈ l.map key then firsts key l else firsts key l ++ [a] := by
  induction l with
  | nil => rfl
  | cons b rest ih =>
    rw [List.cons_append, firsts, firsts, ih]
    by_cases same : key a = key b
    · have dropped : [a].filter (key · != key b) = [] := by simp [same]
      have known : key a ∈ (b :: rest).map key := same ▸ List.mem_cons_self
      rw [if_pos known]
      split
      · rfl
      · rw [List.filter_append, dropped, List.append_nil]
    · have kept : [a].filter (key · != key b) = [a] := by simp [same]
      have known : key a ∈ (b :: rest).map key ↔ key a ∈ rest.map key := by
        rw [List.map_cons, List.mem_cons, or_iff_right same]
      simp only [known]
      split
      · rfl
      · rw [List.filter_append, kept, List.cons_append]

/-- One more entry counts when it passes the filter and its key is new there. -/
theorem firsts_filter_concat (key : α → String) (p : α → Bool) (l : List α) (a : α) :
    firsts key ((l ++ [a]).filter p) =
      if p a = true ∧ key a ∉ (l.filter p).map key then firsts key (l.filter p) ++ [a]
      else firsts key (l.filter p) := by
  rw [List.filter_append]
  by_cases passes : p a = true
  · rw [List.filter_cons_of_pos passes, List.filter_nil, firsts_concat]
    by_cases known : key a ∈ (l.filter p).map key
    · rw [if_pos known, if_neg fun both => both.2 known]
    · rw [if_neg known, if_pos ⟨passes, known⟩]
  · rw [List.filter_cons_of_neg passes, List.filter_nil, List.append_nil,
      if_neg fun both => passes both.1]

theorem firsts_of_nodup (h : (l.map key).Nodup) : firsts key l = l := by
  induction l with
  | nil => rfl
  | cons a rest ih =>
    obtain ⟨new, others⟩ := List.nodup_cons.mp h
    rw [firsts, ih others, List.filter_eq_self.mpr]
    intro b hb
    exact bne_iff_ne.mpr fun same => new (List.mem_map.mpr ⟨b, hb, same⟩)

/-- Which keys there are does not depend on the order. -/
theorem map_firsts_perm (h : l.Perm l') : ((firsts key l).map key).Perm ((firsts key l').map key) := by
  rw [List.perm_ext_iff_of_nodup (nodup_map_firsts key l) (nodup_map_firsts key l')]
  intro k
  rw [mem_map_firsts, mem_map_firsts]
  exact (h.map key).mem_iff

end ScreenNavigation.Manifest
