import Mathlib.Data.List.Nodup
import ScreenNavigation.Proofs.Extras.Entries

/-! Merging extras into extras. The keys that were there stay in front, and of both values of a key the
merged one counts. Keys are distinct, so they and what they hold say all about extras, and every law is one
about these two. -/
namespace ScreenNavigation.Extras

open Json

variable {a b c e : Extras} {key : String} {v : Value}

theorem find?_isSome_iff : (e.find? key).isSome ↔ key ∈ e.keys := by
  rw [Option.isSome_iff_ne_none, Ne, find?_eq_none_iff, not_not]

/-- Extras are their keys in order and what each of them holds. -/
theorem eq_of_keys (order : a.keys = b.keys) (values : ∀ key, a.find? key = b.find? key) : a = b := by
  obtain ⟨es, distinct⟩ := a
  obtain ⟨fs, distinct'⟩ := b
  refine Extras.ext ?_
  change es = fs
  induction es generalizing fs with
  | nil => exact (List.map_eq_nil_iff.mp order.symm).symm
  | cons first rest ih =>
    obtain ⟨k, v⟩ := first
    cases fs with
    | nil => cases order
    | cons other more =>
      obtain ⟨l, w⟩ := other
      obtain ⟨same, later⟩ : k = l ∧ rest.map (·.1) = more.map (·.1) := List.cons.inj order
      subst same
      obtain ⟨apart, distinct⟩ := List.nodup_cons.mp distinct
      obtain ⟨apart', distinct'⟩ := List.nodup_cons.mp distinct'
      have value : v = w := by simpa [find?] using values k
      have behind : rest = more := ih distinct more distinct' later fun key => by
        by_cases here : k = key
        · subst here
          rw [find?_eq_none_iff.mpr apart, find?_eq_none_iff.mpr apart']
        · simpa [find?, here] using values key
      rw [value, behind]

theorem find?_of_mem (mem : (key, v) ∈ e.entries) : e.find? key = some v := by
  obtain ⟨es, distinct⟩ := e
  induction es with
  | nil => cases mem
  | cons first rest ih =>
    obtain ⟨k, w⟩ := first
    obtain ⟨apart, distinct⟩ := List.nodup_cons.mp distinct
    rcases List.mem_cons.mp mem with same | behind
    · cases same
      simp [find?]
    · have different : k ≠ key := fun same =>
        apart (same ▸ List.mem_map.mpr ⟨(key, v), behind, rfl⟩)
      simpa [find?, different] using ih distinct behind

section Insertions

variable {es : List (String × Value)}

theorem insertAll_append (e : Extras) (es fs : List (String × Value)) :
    e.insertAll (es ++ fs) = (e.insertAll es).insertAll fs := List.foldl_append

/-- What a key holds already can be stored again without a trace. -/
theorem insert_eq_self (held : e.find? key = some v) : e.insert key v = e := by
  have old : key ∈ e.keys := find?_isSome_iff.mp (by rw [held, Option.isSome_some])
  refine eq_of_keys (keys_insert_of_mem old v) fun other => ?_
  by_cases same : other = key
  · rw [same, find?_insert_self, held]
  · rw [find?_insert_of_ne e same]

/-- New keys follow the old ones in the order in which they come. -/
theorem keys_insertAll (distinct : (es.map (·.1)).Nodup) (e : Extras) :
    (e.insertAll es).keys = e.keys ++ (es.map (·.1)).filter (· ∉ e.keys) := by
  induction es generalizing e with
  | nil => exact (List.append_nil _).symm
  | cons entry rest ih =>
    obtain ⟨key, v⟩ := entry
    obtain ⟨apart, distinct⟩ := List.nodup_cons.mp distinct
    have others : (rest.map (·.1)).filter (· ∉ (e.insert key v).keys) =
        (rest.map (·.1)).filter (· ∉ e.keys) := by
      refine List.filter_congr fun other behind => ?_
      have different : other ≠ key := fun same => apart (same ▸ behind)
      by_cases old : key ∈ e.keys <;> simp [keys_insert, old, different]
    change ((e.insert key v).insertAll rest).keys = _
    rw [ih distinct, others, keys_insert, List.append_assoc, List.map_cons, List.filter_cons]
    by_cases old : key ∈ e.keys <;> simp [old]

theorem find?_insertAll (distinct : (es.map (·.1)).Nodup) (e : Extras) (key : String) :
    (e.insertAll es).find? key = ((Extras.mk es distinct).find? key).or (e.find? key) := by
  induction es generalizing e with
  | nil => rfl
  | cons entry rest ih =>
    obtain ⟨k, v⟩ := entry
    obtain ⟨apart, later⟩ := List.nodup_cons.mp distinct
    change ((e.insert k v).insertAll rest).find? key = _
    rw [ih later]
    by_cases here : key = k
    · subst here
      have missing : (Extras.mk rest later).find? key = none := find?_eq_none_iff.mpr apart
      rw [missing, find?_insert_self]
      simp [find?]
    · rw [find?_insert_of_ne e here]
      simp [find?, Ne.symm here]

theorem find?_insertAll_of_mem (distinct : (es.map (·.1)).Nodup) (e : Extras) (mem : (key, v) ∈ es) :
    (e.insertAll es).find? key = some v := by
  have own : (Extras.mk es distinct).find? key = some v := find?_of_mem mem
  rw [find?_insertAll distinct, own, Option.some_or]

theorem find?_insertAll_of_notMem (distinct : (es.map (·.1)).Nodup) (e : Extras)
    (missing : key ∉ es.map (·.1)) : (e.insertAll es).find? key = e.find? key := by
  have none : (Extras.mk es distinct).find? key = none := find?_eq_none_iff.mpr missing
  rw [find?_insertAll distinct, none, Option.none_or]

/-- Storing entries leaves no trace exactly when all of them are there already. -/
theorem insertAll_eq_self_iff (distinct : (es.map (·.1)).Nodup) :
    e.insertAll es = e ↔ ∀ key v, (key, v) ∈ es → e.find? key = some v := by
  constructor
  · intro same key v mem
    rw [← same]
    exact find?_insertAll_of_mem distinct e mem
  · intro held
    induction es with
    | nil => rfl
    | cons entry rest ih =>
      obtain ⟨key, v⟩ := entry
      change (e.insert key v).insertAll rest = e
      rw [insert_eq_self (held key v List.mem_cons_self)]
      exact ih (List.nodup_cons.mp distinct).2 fun key v mem => held key v (List.mem_cons_of_mem _ mem)

end Insertions

section Merges

theorem keys_putAll (a b : Extras) : (a.putAll b).keys = a.keys ++ b.keys.filter (· ∉ a.keys) :=
  keys_insertAll b.distinct a

theorem find?_putAll (a b : Extras) (key : String) :
    (a.putAll b).find? key = (b.find? key).or (a.find? key) := find?_insertAll b.distinct a key

theorem putAll_assoc (a b c : Extras) : (a.putAll b).putAll c = a.putAll (b.putAll c) := by
  refine eq_of_keys ?_ fun key => ?_
  · -- a key of `c` is new to both others exactly when it is new to `b` and what is left is new to `a`
    simp only [keys_putAll, List.filter_append, List.filter_filter, List.append_assoc]
    congr 2
    refine List.filter_congr fun key _ => ?_
    by_cases old : key ∈ a.keys <;> simp [old]
  · simp only [find?_putAll, Option.or_assoc]

theorem putAll_empty (a : Extras) : a.putAll .empty = a := rfl

theorem empty_putAll (a : Extras) : Extras.empty.putAll a = a := by
  refine eq_of_keys ?_ fun key => ?_
  · rw [keys_putAll]
    exact List.filter_eq_self.mpr fun key _ => by simp [Extras.empty, keys]
  · rw [find?_putAll]
    exact Option.or_none

/-- Merging in what is there already changes nothing. -/
theorem putAll_eq_self (held : ∀ key ∈ b.keys, a.find? key = b.find? key) : a.putAll b = a :=
  (insertAll_eq_self_iff b.distinct).mpr fun key v mem => by
    rw [held key (List.mem_map.mpr ⟨(key, v), mem, rfl⟩), find?_of_mem mem]

theorem find?_putAll_of_mem (a : Extras) (mem : key ∈ b.keys) :
    (a.putAll b).find? key = b.find? key := by
  rw [find?_putAll, Option.or_of_isSome (find?_isSome_iff.mpr mem)]

theorem find?_putAll_of_notMem (a : Extras) (missing : key ∉ b.keys) :
    (a.putAll b).find? key = a.find? key := find?_insertAll_of_notMem b.distinct a missing

end Merges

/-- Extras merge like a union in order: it does not matter which merge is done first, what is merged once
more changes nothing, and a key that both have keeps its place and takes the merged value. -/
theorem merges_are_ordered_unions (a b c : Extras) :
    (a.putAll b).putAll c = a.putAll (b.putAll c) ∧
      a.putAll .empty = a ∧ Extras.empty.putAll a = a ∧
      (a.putAll b).putAll b = a.putAll b ∧ a.putAll a = a ∧
      (∀ key ∈ b.keys, (a.putAll b).find? key = b.find? key) ∧
      (∀ key, key ∉ b.keys → (a.putAll b).find? key = a.find? key) ∧
      (a.putAll b).keys = a.keys ++ b.keys.filter (· ∉ a.keys) ∧
      (a.putAll b).keys.Nodup := by
  have again : (a.putAll b).putAll b = a.putAll b :=
    putAll_eq_self fun key mem => find?_putAll_of_mem a mem
  exact ⟨putAll_assoc a b c, putAll_empty a, empty_putAll a, again,
    putAll_eq_self fun _ _ => rfl, fun _ mem => find?_putAll_of_mem a mem,
    fun _ missing => find?_putAll_of_notMem a missing, keys_putAll a b, nodup_keys _⟩

/-- What a screen was started with. -/
def started : Extras := ⟨[("page", .string "1"), ("tag", .string "old")], by decide⟩

/-- What it was told later, in two steps. -/
def renamed : Extras := ⟨[("tag", .string "new"), ("owner", .null)], by decide⟩

def claimed : Extras := ⟨[("owner", .string "ada"), ("page", .string "2")], by decide⟩

theorem merges_are_ordered_unions_started :
    (started.putAll renamed).putAll claimed = started.putAll (renamed.putAll claimed) ∧
      (started.putAll renamed).keys = ["page", "tag", "owner"] ∧
      (started.putAll renamed).find? "tag" = some (.string "new") := by
  obtain ⟨assoc, -, -, -, -, own, -, order, -⟩ := merges_are_ordered_unions started renamed claimed
  exact ⟨assoc, order.trans (by decide), own "tag" (by decide)⟩

end ScreenNavigation.Extras
