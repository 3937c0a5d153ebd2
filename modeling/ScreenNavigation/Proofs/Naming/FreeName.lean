import Mathlib.Data.List.Nodup
import Mathlib.Data.List.Perm.Subperm
import ScreenNavigation.Naming.Identifier

/-! Names beside names that are taken. A base is numbered only when it is taken itself, and the number
is the least from 2 on that frees it. -/
namespace ScreenNavigation.Naming

/-- The name a base gets beside taken names. -/
inductive FreeName (taken : List String) (base : String) : String → Prop where
  | own (free : base ∉ taken) : FreeName taken base base
  | numbered (i : Nat) (two_le : 2 ≤ i) (base_taken : base ∈ taken)
      (free : base ++ toString i ∉ taken)
      (least : ∀ j, 2 ≤ j → j < i → base ++ toString j ∈ taken) :
      FreeName taken base (base ++ toString i)

theorem numbered_injective (base : String) :
    Function.Injective fun i : Nat => base ++ toString i := by
  intro i j h
  have same : Nat.toDigits 10 i = Nat.toDigits 10 j := by
    simpa [Nat.toString_eq_ofList_toDigits] using congrArg String.toList h
  rw [← Nat.ofDigitChars_ten_toDigits (n := i), same, Nat.ofDigitChars_ten_toDigits]

theorem numbered_ne_base (base : String) (i : Nat) : base ++ toString i ≠ base := by
  intro h
  have digits := congrArg String.toList h
  simp at digits

theorem FreeName.not_mem {taken : List String} {base name : String} (h : FreeName taken base name) :
    name ∉ taken := by
  cases h with
  | own free => exact free
  | numbered i two_le base_taken free least => exact free

/-- Only what is taken counts, in whatever order. -/
theorem FreeName.congr {taken others : List String} {base name : String}
    (h : FreeName taken base name) (same : ∀ other, other ∈ taken ↔ other ∈ others) :
    FreeName others base name := by
  cases h with
  | own free => exact .own (mt (same base).mpr free)
  | numbered i two_le base_taken free least =>
    exact .numbered i two_le ((same _).mp base_taken) (mt (same _).mpr free)
      fun j low less => (same _).mp (least j low less)

/-- The base is kept exactly when it is free. -/
theorem FreeName.eq_base_iff {taken : List String} {base name : String}
    (h : FreeName taken base name) : name = base ↔ base ∉ taken := by
  cases h with
  | own free => exact ⟨fun _ => free, fun _ => rfl⟩
  | numbered i two_le base_taken free least =>
    exact ⟨fun same => absurd same (numbered_ne_base base i), fun own => absurd base_taken own⟩

/-- The base and its numbered forms are different names, so of those that are taken there are no more than
there are taken names. -/
theorem number_lt {taken : List String} {base : String} {i : Nat} (base_taken : base ∈ taken)
    (all : ∀ j, 2 ≤ j → j < i → base ++ toString j ∈ taken) : i < taken.length + 2 := by
  have sub : base :: (List.range' 2 (i - 2)).map (fun j => base ++ toString j) ⊆ taken := by
    intro name hn
    rcases List.mem_cons.mp hn with rfl | numbered
    · exact base_taken
    · obtain ⟨j, hj, rfl⟩ := List.mem_map.mp numbered
      obtain ⟨low, high⟩ := List.mem_range'_1.mp hj
      exact all j low (by omega)
  have distinct : (base :: (List.range' 2 (i - 2)).map fun j => base ++ toString j).Nodup := by
    refine List.nodup_cons.mpr ⟨fun same => ?_, List.Nodup.map (numbered_injective base) List.nodup_range'⟩
    obtain ⟨j, -, own⟩ := List.mem_map.mp same
    exact numbered_ne_base base j own
  have short := (List.subperm_of_subset distinct sub).length_le
  rw [List.length_cons, List.length_map, List.length_range'] at short
  omega

private theorem exists_numbered_free {taken : List String} {base : String} (base_taken : base ∈ taken) :
    ∃ i, 2 ≤ i ∧ i < 2 + (taken.length + 1) ∧ base ++ toString i ∉ taken := by
  by_contra all
  have short := number_lt base_taken (i := taken.length + 3) fun j low high => by
    by_contra free
    exact all ⟨j, low, by omega, free⟩
  omega

theorem unique_freeName (base : String) (taken : List String) :
    FreeName taken base (unique base taken) := by
  unfold unique
  by_cases hb : base ∈ taken
  · rw [if_pos (List.contains_iff_mem.mpr hb), List.find?_map]
    cases hf : (List.range' 2 (taken.length + 1)).find?
        ((fun name => !taken.contains name) ∘ fun i => base ++ toString i) with
    | none =>
      obtain ⟨i, low, high, free⟩ := exists_numbered_free hb
      have missed := List.find?_eq_none.mp hf i (List.mem_range'_1.mpr ⟨low, high⟩)
      exact absurd (by simpa using missed) free
    | some i =>
      obtain ⟨free, bounds, least⟩ := List.find?_range'_eq_some.mp hf
      refine .numbered i (List.mem_range'_1.mp bounds).1 hb (by simpa using free) ?_
      intro j low less
      simpa using least j low less
  · rw [if_neg (by simpa using hb)]
    exact .own hb

/-- Names for bases in order, each beside the names that are taken by then. -/
inductive FreeNames : List String → List String → List String → Prop where
  | nil {taken : List String} : FreeNames taken [] []
  | cons {taken bases names : List String} {base name : String} (free : FreeName taken base name)
      (later : FreeNames (name :: taken) bases names) :
      FreeNames taken (base :: bases) (name :: names)

namespace FreeNames

variable {taken bases names : List String}

theorem length_eq (h : FreeNames taken bases names) : names.length = bases.length := by
  induction h with
  | nil => rfl
  | cons free later ih => rw [List.length_cons, List.length_cons, ih]

theorem disjoint (h : FreeNames taken bases names) : ∀ name ∈ names, name ∉ taken := by
  induction h with
  | nil => simp
  | cons free later ih =>
    intro name hn
    rcases List.mem_cons.mp hn with rfl | behind
    · exact free.not_mem
    · exact fun known => ih name behind (List.mem_cons_of_mem _ known)

theorem nodup (h : FreeNames taken bases names) : names.Nodup := by
  induction h with
  | nil => exact List.nodup_nil
  | cons free later ih =>
    exact List.nodup_cons.mpr ⟨fun again => later.disjoint _ again List.mem_cons_self, ih⟩

/-- What is taken when a name is chosen are the names at first and those before it. -/
theorem freeName (h : FreeNames taken bases names) {i : Nat} {base name : String}
    (hb : bases[i]? = some base) (hn : names[i]? = some name) :
    FreeName (taken ++ names.take i) base name := by
  induction h generalizing i with
  | nil => cases hb
  | @cons taken bases names first own free later ih =>
    cases i with
    | zero =>
      cases hb
      cases hn
      rwa [List.take_zero, List.append_nil]
    | succ i => exact (ih hb hn).congr fun other => by simp [or_left_comm]

end FreeNames

theorem uniqueInTurn_freeNames (taken bases : List String) :
    FreeNames taken bases (uniqueInTurn taken bases) := by
  induction bases generalizing taken with
  | nil => exact .nil
  | cons base rest ih => exact .cons (unique_freeName base taken) (ih _)

end ScreenNavigation.Naming
