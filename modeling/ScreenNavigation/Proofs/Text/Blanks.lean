import Mathlib.Data.List.Basic
import ScreenNavigation.Text.Characters

/-! Blanks at the ends of texts and outside of identifiers. The tables of identifier characters are only
ever counted, up to each of the blanks outside ASCII. -/
namespace ScreenNavigation.Text

/-- A point is within boundaries when an odd number of them leads up to it. -/
theorem withinBoundaries_eq (boundaries : Array Nat) (point : Nat) :
    withinBoundaries boundaries point =
      (boundaries.toList.countP (Nat.ble · point) % 2 == 1) := by
  have flips (bs : List Nat) : ∀ inside : Bool,
      bs.foldl (fun inside b => if b ≤ point then !inside else inside) inside =
        (inside ^^ (bs.countP (Nat.ble · point) % 2 == 1)) := by
    induction bs with
    | nil => simp
    | cons b rest ih =>
      intro inside
      rw [List.foldl_cons, ih, List.countP_cons]
      by_cases low : b ≤ point
      · rcases Nat.mod_two_eq_zero_or_one (rest.countP (Nat.ble · point)) with even | odd
        · have next : (rest.countP (Nat.ble · point) + 1) % 2 = 1 := by omega
          simp [low, even, next]
        · have next : (rest.countP (Nat.ble · point) + 1) % 2 = 0 := by omega
          simp [low, odd, next]
      · simp [low]
  rw [withinBoundaries, ← Array.foldl_toList, flips, Bool.false_xor]

section Classes

variable {c : Char}

private def wideBlanks : List Nat :=
  [0x85, 0xa0, 0x1680, 0x2000, 0x2001, 0x2002, 0x2003, 0x2004, 0x2005, 0x2006, 0x2007, 0x2008,
    0x2009, 0x200a, 0x2028, 0x2029, 0x202f, 0x205f, 0x3000]

private theorem mem_wideBlanks (blank : isBlank c = true) (wide : isAscii c = false) :
    c.toNat ∈ wideBlanks := by
  have space : c = ' ' ↔ c.toNat = 32 := Char.toNat_inj.symm
  simp only [isAscii, decide_eq_false_iff_not] at wide
  simp only [isBlank, Bool.or_eq_true, Bool.and_eq_true, beq_iff_eq, decide_eq_true_eq, space] at blank
  simp only [wideBlanks, List.mem_cons, List.not_mem_nil, or_false]
  omega

private theorem wideBlanks_outside :
    (wideBlanks.all fun n => identifierStartPoints.toList.countP (Nat.ble · n) % 2 == 0 &&
      identifierContinuePoints.toList.countP (Nat.ble · n) % 2 == 0) = true := by decide +kernel

private theorem not_isWordCharacter_of_isBlank (blank : isBlank c = true) (ascii : isAscii c = true) :
    isWordCharacter c = false := by
  have all : ∀ n < 128, isBlank (Char.ofNat n) = true → isWordCharacter (Char.ofNat n) = false := by
    decide +kernel
  rw [← Char.ofNat_toNat c] at blank ⊢
  exact all c.toNat (by simpa [isAscii] using ascii) blank

/-- No blank belongs to an identifier. -/
theorem not_identifier_of_isBlank (blank : isBlank c = true) :
    isIdentifierStart c = false ∧ isIdentifierContinue c = false := by
  cases ascii : isAscii c with
  | true =>
    have word := not_isWordCharacter_of_isBlank blank ascii
    refine ⟨?_, by rw [isIdentifierContinue, if_pos ascii, word]⟩
    simp only [isWordCharacter, Bool.or_eq_false_iff] at word
    simp [isIdentifierStart, ascii, word]
  | false =>
    have outside := List.all_eq_true.mp wideBlanks_outside _ (mem_wideBlanks blank ascii)
    simp only [Bool.and_eq_true, beq_iff_eq] at outside
    refine ⟨?_, ?_⟩
    · rw [isIdentifierStart, ascii, if_neg Bool.false_ne_true, withinBoundaries_eq, outside.1]
      rfl
    · rw [isIdentifierContinue, ascii, if_neg Bool.false_ne_true, withinBoundaries_eq, outside.2]
      rfl

end Classes

section Trimming

variable {s gaps : List Char}

theorem trimBlanks_cons {b : Char} (blank : isBlank b = true) (s : List Char) :
    trimBlanks (b :: s) = trimBlanks s := by
  rw [trimBlanks, List.dropWhile_cons_of_pos blank]
  rfl

theorem trimBlanks_concat {b : Char} (blank : isBlank b = true) (s : List Char) :
    trimBlanks (s ++ [b]) = trimBlanks s := by
  rw [trimBlanks, trimBlanks, List.dropWhile_append]
  cases kept : s.dropWhile isBlank with
  | nil => simp [blank]
  | cons c rest => simp [blank]

theorem trimBlanks_append_left (h : ∀ c ∈ gaps, isBlank c = true) (s : List Char) :
    trimBlanks (gaps ++ s) = trimBlanks s := by
  induction gaps with
  | nil => rfl
  | cons b rest ih =>
    rw [List.cons_append, trimBlanks_cons (h b List.mem_cons_self),
      ih fun c hc => h c (List.mem_cons_of_mem _ hc)]

theorem trimBlanks_append_right (h : ∀ c ∈ gaps, isBlank c = true) (s : List Char) :
    trimBlanks (s ++ gaps) = trimBlanks s := by
  induction gaps generalizing s with
  | nil => rw [List.append_nil]
  | cons b rest ih =>
    rw [← List.singleton_append, ← List.append_assoc, ih fun c hc => h c (List.mem_cons_of_mem _ hc),
      trimBlanks_concat (h b List.mem_cons_self)]

/-- What has no blanks is kept whole. -/
theorem trimBlanks_eq_self (h : ∀ c ∈ s, isBlank c = false) : trimBlanks s = s := by
  have kept : ∀ t : List Char, (∀ c ∈ t, isBlank c = false) → t.dropWhile isBlank = t := by
    intro t ht
    cases t with
    | nil => rfl
    | cons c rest => exact List.dropWhile_cons_of_neg (by simp [ht c List.mem_cons_self])
  rw [trimBlanks, kept s h, kept s.reverse fun c hc => h c (List.mem_reverse.mp hc),
    List.reverse_reverse]

theorem exists_eq_append_trimBlanks (s : List Char) : ∃ before behind, s = before ++ trimBlanks s ++ behind ∧
    (∀ c ∈ before, isBlank c = true) ∧ ∀ c ∈ behind, isBlank c = true := by
  refine ⟨s.takeWhile isBlank, ((s.dropWhile isBlank).reverse.takeWhile isBlank).reverse, ?_, ?_, ?_⟩
  · rw [trimBlanks, List.append_assoc, ← List.reverse_append, List.takeWhile_append_dropWhile,
      List.reverse_reverse, List.takeWhile_append_dropWhile]
  · exact List.all_eq_true.mp List.all_takeWhile
  · intro c hc
    exact List.all_eq_true.mp List.all_takeWhile c (List.mem_reverse.mp hc)

end Trimming

end ScreenNavigation.Text
