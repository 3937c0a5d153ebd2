import ScreenNavigation.Proofs.Naming.FreeName

/-! Making many names unique in turn. The search for a number has no bound of its own; it ends because no more
numbers can be passed over than there are names in use. -/
namespace ScreenNavigation.Naming

/-- The search for a number from `i` on as it goes on round by round, cut off after some rounds. -/
def search (used : List String) (base : String) : Nat → Nat → Option String
  | 0, _ => none
  | rounds + 1, i =>
    let name := base ++ toString i
    if used.contains name then search used base rounds (i + 1) else some name

/-- A base made unique in at most so many rounds. -/
def uniqueWithin (rounds : Nat) (base : String) (used : List String) : Option String :=
  if used.contains base then search used base rounds 2 else some base

/-- Bases made unique one after the other, each in at most so many rounds. -/
def uniqueInTurnWithin (rounds : Nat) (used : List String) : List String → Option (List String)
  | [] => some []
  | base :: rest => do
    let name ← uniqueWithin rounds base used
    let names ← uniqueInTurnWithin rounds (name :: used) rest
    return name :: names

variable {used bases : List String} {base name : String}

/-- All numbers in front of a free one are passed over, one in each round. -/
private theorem search_eq {i : Nat} (free : base ++ toString i ∉ used) {rounds k : Nat} (low : k ≤ i)
    (enough : i < k + rounds) (passed : ∀ j, k ≤ j → j < i → base ++ toString j ∈ used) :
    search used base rounds k = some (base ++ toString i) := by
  induction rounds generalizing k with
  | zero => omega
  | succ rounds ih =>
    rw [search]
    rcases Nat.eq_or_lt_of_le low with rfl | less
    · exact if_neg fun taken => free (List.contains_iff_mem.mp taken)
    · have here := List.contains_iff_mem.mpr (passed k (Nat.le_refl k) less)
      rw [if_pos here]
      exact ih less (by omega) fun j behind => passed j (by omega)

theorem FreeName.uniqueWithin_eq (h : FreeName used base name) {rounds : Nat} (enough : used.length ≤ rounds) :
    uniqueWithin rounds base used = some name := by
  rw [uniqueWithin]
  cases h with
  | own free => rw [if_neg (by simpa using free)]
  | numbered i two_le base_used free least =>
    have short := number_lt base_used least
    rw [if_pos (List.contains_iff_mem.mpr base_used)]
    exact search_eq free two_le (by omega) least

theorem uniqueInTurnWithin_eq {rounds : Nat} (enough : used.length + bases.length ≤ rounds) :
    uniqueInTurnWithin rounds used bases = some (uniqueInTurn used bases) := by
  induction bases generalizing used with
  | nil => rfl
  | cons base rest ih =>
    rw [List.length_cons] at enough
    have alone : used.length ≤ rounds := by omega
    have more : (unique base used :: used).length + rest.length ≤ rounds := by
      rw [List.length_cons]
      omega
    have first := (unique_freeName base used).uniqueWithin_eq alone
    have later := ih more
    rw [uniqueInTurnWithin, first, Option.bind_eq_bind, Option.bind_some, later]
    rfl

/-- Making names unique in turn always ends, within as many rounds a name as there are names in use and bases.
The names are distinct and new. Each is its base exactly when the base was free by then, and else the base
with the least number from 2 on that made it free. -/
theorem names_in_turn_are_free (used bases : List String) :
    (∀ more, uniqueInTurnWithin (used.length + bases.length + more) used bases =
        some (uniqueInTurn used bases)) ∧
      (uniqueInTurn used bases).length = bases.length ∧
      (uniqueInTurn used bases).Nodup ∧ (∀ name ∈ uniqueInTurn used bases, name ∉ used) ∧
      ∀ (i : Nat) (base name : String), bases[i]? = some base →
        (uniqueInTurn used bases)[i]? = some name →
          FreeName (used ++ (uniqueInTurn used bases).take i) base name ∧
            (name = base ↔ base ∉ used ++ (uniqueInTurn used bases).take i) := by
  have chosen := uniqueInTurn_freeNames used bases
  refine ⟨fun more => uniqueInTurnWithin_eq (Nat.le_add_right _ _), chosen.length_eq, chosen.nodup,
    chosen.disjoint, fun i base name hb hn => ?_⟩
  have free := chosen.freeName hb hn
  exact ⟨free, free.eq_base_iff⟩

/-- The name of one base is another base. -/
theorem names_in_turn_are_free_again :
    uniqueInTurn ["home", "home2"] ["home", "detail", "home3"] = ["home3", "detail", "home32"] ∧
      uniqueInTurnWithin 5 ["home", "home2"] ["home", "detail", "home3"] =
        some ["home3", "detail", "home32"] ∧
      FreeName ["home", "home2", "home3", "detail"] "home3" "home32" := by
  have names : uniqueInTurn ["home", "home2"] ["home", "detail", "home3"] =
      ["home3", "detail", "home32"] := by decide
  obtain ⟨ends, -, -, -, each⟩ :=
    names_in_turn_are_free ["home", "home2"] ["home", "detail", "home3"]
  have whole := ends 0
  have last := (each 2 "home3" "home32" rfl (by rw [names]; rfl)).1
  rw [names] at whole last
  exact ⟨names, whole, last⟩

end ScreenNavigation.Naming
