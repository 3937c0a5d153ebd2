import Mathlib.Data.List.Basic
import ScreenNavigation.Naming.Identifier

/-! What the words of a text are made of. A capitalised word at the end of a text ends the last part of
the text's name, whatever stands in front of it. -/
namespace ScreenNavigation.Naming

open Text

def IsWord (w : List Char) : Prop := w ≠ [] ∧ ∀ c ∈ w, isWordLetter c = true

theorem isWordCharacter_of_isWordLetter {c : Char} (h : isWordLetter c = true) :
    isWordCharacter c = true := by
  unfold isWordLetter at h
  unfold isWordCharacter
  rw [h, Bool.true_or]

private theorem mem_closed {word w : List Char} (h : w ∈ closed word) : word ≠ [] ∧ w = word.reverse := by
  cases word with
  | nil => simp [closed] at h
  | cons c rest => exact ⟨by simp, by simpa [closed] using h⟩

theorem closed_of_ne_nil {word : List Char} (h : word ≠ []) : closed word = [word.reverse] := by
  cases word with
  | nil => exact absurd rfl h
  | cons c rest => rfl

private theorem wordsFrom_isWord {word s : List Char} (letters : ∀ c ∈ word, isWordLetter c = true) :
    ∀ w ∈ wordsFrom word s, IsWord w := by
  have ready : ∀ w ∈ closed word, IsWord w := by
    intro w hw
    obtain ⟨filled, rfl⟩ := mem_closed hw
    exact ⟨by simpa using filled, fun c hc => letters c (List.mem_reverse.mp hc)⟩
  induction s generalizing word with
  | nil => exact ready
  | cons c rest ih =>
    intro w hw
    rw [wordsFrom] at hw
    split at hw
    · rename_i letter
      have more : ∀ d ∈ c :: word, isWordLetter d = true := by
        intro d hd
        rcases List.mem_cons.mp hd with rfl | old
        · exact letter
        · exact letters d old
      refine ih more ?_ w hw
      intro v hv
      obtain ⟨filled, rfl⟩ := mem_closed hv
      exact ⟨by simp, fun d hd => more d (List.mem_reverse.mp hd)⟩
    · rcases List.mem_append.mp hw with here | later
      · exact ready w here
      · exact ih (by simp) (by simp [closed]) w later

theorem words_isWord (s : List Char) : ∀ w ∈ words s, IsWord w := wordsFrom_isWord (by simp)

/-- Cutting at capitals neither adds nor changes a character. -/
private theorem mem_humpsFrom {hump word h : List Char} (hh : h ∈ humpsFrom hump word) :
    h ≠ [] ∧ ∀ c ∈ h, c ∈ hump ∨ c ∈ word := by
  induction word generalizing hump with
  | nil =>
    obtain ⟨filled, rfl⟩ := mem_closed hh
    exact ⟨by simpa using filled, fun c hc => .inl (List.mem_reverse.mp hc)⟩
  | cons c rest ih =>
    rw [humpsFrom] at hh
    split at hh
    · rcases List.mem_append.mp hh with here | later
      · obtain ⟨filled, rfl⟩ := mem_closed here
        exact ⟨by simpa using filled, fun d hd => .inl (List.mem_reverse.mp hd)⟩
      · obtain ⟨filled, parts⟩ := ih later
        refine ⟨filled, fun d hd => .inr ?_⟩
        rcases parts d hd with one | more
        · rw [List.mem_singleton.mp one]
          exact List.mem_cons_self
        · exact List.mem_cons_of_mem _ more
    · obtain ⟨filled, parts⟩ := ih hh
      refine ⟨filled, fun d hd => ?_⟩
      have := parts d hd
      simp only [List.mem_cons] at this ⊢
      tauto

theorem isWord_of_mem_humps {w p : List Char} (h : IsWord w) (hp : p ∈ humps w) : IsWord p := by
  obtain ⟨filled, parts⟩ := mem_humpsFrom hp
  refine ⟨filled, fun c hc => ?_⟩
  rcases parts c hc with none | inside
  · simp at none
  · exact h.2 c inside

theorem flatMap_humps_isWord {ws : List (List Char)} (h : ∀ w ∈ ws, IsWord w) :
    ∀ p ∈ ws.flatMap humps, IsWord p := by
  intro p hp
  obtain ⟨w, hw, hpw⟩ := List.mem_flatMap.mp hp
  exact isWord_of_mem_humps (h w hw) hpw

theorem nameParts_isWord (s : String) : ∀ p ∈ nameParts s, IsWord p := flatMap_humps_isWord (words_isWord _)

private theorem flatten_closed (word : List Char) : (closed word).flatten = word.reverse := by
  cases word with
  | nil => rfl
  | cons c rest => rw [closed_of_ne_nil (by simp), List.flatten_singleton]

private theorem flatten_humpsFrom (hump word : List Char) :
    (humpsFrom hump word).flatten = hump.reverse ++ word := by
  induction word generalizing hump with
  | nil => rw [humpsFrom, flatten_closed, List.append_nil]
  | cons c rest ih =>
    rw [humpsFrom]
    split
    · rw [List.flatten_append, flatten_closed, ih, List.reverse_singleton, List.singleton_append]
    · rw [ih, List.reverse_cons, List.append_assoc, List.singleton_append]

/-- Words that are cut at their capitals hold the same characters in order. -/
theorem flatten_flatMap_humps (ws : List (List Char)) : (ws.flatMap humps).flatten = ws.flatten := by
  induction ws with
  | nil => rfl
  | cons w rest ih =>
    rw [List.flatMap_cons, List.flatten_append, humps, flatten_humpsFrom, ih]
    rfl

theorem joined_cons_cons (w v : List Char) (rest : List (List Char)) :
    joined (w :: v :: rest) = w ++ '_' :: joined (v :: rest) := by
  rw [joined, List.intercalate_cons_cons, List.append_assoc, List.singleton_append]
  rfl

/-- Joined words hold nothing but letters, digits and underscores. -/
theorem joined_isWordCharacter {ws : List (List Char)} (h : ∀ w ∈ ws, IsWord w) :
    ∀ c ∈ joined ws, isWordCharacter c = true := by
  induction ws with
  | nil => simp [joined]
  | cons w rest ih =>
    have first : ∀ c ∈ w, isWordCharacter c = true := fun c hc =>
      isWordCharacter_of_isWordLetter ((h w List.mem_cons_self).2 c hc)
    cases rest with
    | nil => simpa [joined, List.intercalate_singleton] using first
    | cons v rest =>
      intro c hc
      rw [joined_cons_cons, List.mem_append, List.mem_cons] at hc
      rcases hc with here | rfl | later
      · exact first c here
      · decide
      · exact ih (fun u hu => h u (List.mem_cons_of_mem _ hu)) c later

theorem joined_ne_nil {ws : List (List Char)} (some_word : ws ≠ []) (h : ∀ w ∈ ws, IsWord w) :
    joined ws ≠ [] := by
  cases ws with
  | nil => exact absurd rfl some_word
  | cons w rest =>
    have filled := (h w List.mem_cons_self).1
    cases rest with
    | nil => simpa [joined, List.intercalate_singleton] using filled
    | cons v rest =>
      rw [joined_cons_cons]
      exact List.append_ne_nil_of_left_ne_nil filled _

private theorem wordsFrom_letters {w : List Char} (letters : ∀ c ∈ w, isWordLetter c = true)
    (word : List Char) : wordsFrom word w = closed (w.reverse ++ word) := by
  induction w generalizing word with
  | nil => rfl
  | cons c rest ih =>
    rw [wordsFrom, if_pos (letters c List.mem_cons_self),
      ih (fun d hd => letters d (List.mem_cons_of_mem _ hd)), List.reverse_cons,
      List.append_assoc, List.singleton_append]

section Separators

/-- What stands behind a separator has words of its own. -/
private theorem wordsFrom_append_separator {c : Char} (separator : isWordLetter c = false)
    (word s t : List Char) : wordsFrom word (s ++ c :: t) = wordsFrom word s ++ words t := by
  induction s generalizing word with
  | nil =>
    simp only [List.nil_append, wordsFrom, separator, Bool.false_eq_true, if_false]
    rfl
  | cons d rest ih =>
    rw [List.cons_append, wordsFrom, wordsFrom]
    split
    · exact ih (d :: word)
    · rw [ih, List.append_assoc]

theorem words_append_separator {c : Char} (separator : isWordLetter c = false) (s t : List Char) :
    words (s ++ c :: t) = words s ++ words t := wordsFrom_append_separator separator [] s t

theorem words_of_isWord {w : List Char} (h : IsWord w) : words w = [w] := by
  rw [words, wordsFrom_letters h.2, List.append_nil, closed_of_ne_nil (by simpa using h.1),
    List.reverse_reverse]

theorem not_isWordLetter_underscore : isWordLetter '_' = false := by decide

/-- Joined words can be told apart again. -/
theorem words_joined {ws : List (List Char)} (h : ∀ w ∈ ws, IsWord w) : words (joined ws) = ws := by
  induction ws with
  | nil => rfl
  | cons w rest ih =>
    have first := words_of_isWord (h w List.mem_cons_self)
    cases rest with
    | nil => rwa [joined, List.intercalate_singleton]
    | cons v rest =>
      rw [joined_cons_cons, words_append_separator not_isWordLetter_underscore, first,
        ih fun u hu => h u (List.mem_cons_of_mem _ hu)]
      rfl

end Separators

section Ending

private theorem wordsFrom_append {w : List Char} (hw : IsWord w) (word s : List Char) :
    ∃ before front, wordsFrom word (s ++ w) = before ++ [front ++ w] := by
  induction s generalizing word with
  | nil =>
    refine ⟨[], word.reverse, ?_⟩
    rw [List.nil_append, wordsFrom_letters hw.2, closed_of_ne_nil (by simp [hw.1])]
    simp
  | cons c rest ih =>
    rw [List.cons_append, wordsFrom]
    split
    · exact ih (c :: word)
    · obtain ⟨before, front, same⟩ := ih []
      exact ⟨closed word ++ before, front, by rw [same, List.append_assoc]⟩

private theorem humpsFrom_small {small : List Char} (hs : ∀ d ∈ small, isAsciiUpper d = false)
    (hump : List Char) : humpsFrom hump small = closed (small.reverse ++ hump) := by
  induction small generalizing hump with
  | nil => rfl
  | cons d rest ih =>
    rw [humpsFrom, hs d List.mem_cons_self, Bool.false_and, if_neg Bool.false_ne_true,
      ih (fun e he => hs e (List.mem_cons_of_mem _ he)), List.reverse_cons,
      List.append_assoc, List.singleton_append]

private theorem humpsFrom_append (c : Char) {small : List Char}
    (hs : ∀ d ∈ small, isAsciiUpper d = false) (hump word : List Char) :
    ∃ before front, humpsFrom hump (word ++ c :: small) = before ++ [front ++ c :: small] := by
  have ended : ∀ hump : List Char, humpsFrom (c :: hump) small = [hump.reverse ++ c :: small] := by
    intro hump
    rw [humpsFrom_small hs, closed_of_ne_nil (by simp)]
    simp
  induction word generalizing hump with
  | nil =>
    rw [List.nil_append, humpsFrom]
    split
    · exact ⟨closed hump, [], by rw [ended]; rfl⟩
    · exact ⟨[], hump.reverse, by rw [ended]; rfl⟩
  | cons d rest ih =>
    rw [List.cons_append, humpsFrom]
    split
    · obtain ⟨before, front, same⟩ := ih [d]
      exact ⟨closed hump ++ before, front, by rw [same, List.append_assoc]⟩
    · exact ih (d :: hump)

theorem joined_append (before : List (List Char)) (last : List Char) :
    ∃ front, joined (before ++ [last]) = front ++ last := by
  induction before with
  | nil => exact ⟨[], by simp [joined, List.intercalate_singleton]⟩
  | cons w rest ih =>
    obtain ⟨front, same⟩ := ih
    refine ⟨w ++ ['_'] ++ front, ?_⟩
    rw [List.cons_append, joined, List.intercalate_cons_of_ne_nil (by simp)]
    rw [joined] at same
    rw [same]
    simp

theorem transliterate_append (s t : List Char) :
    transliterate (s ++ t) = transliterate s ++ transliterate t := List.flatMap_append

theorem transliterate_of_isAscii {s : List Char} (h : ∀ c ∈ s, isAscii c = true) :
    transliterate s = s := by
  induction s with
  | nil => rfl
  | cons c rest ih =>
    have tail := ih (fun d hd => h d (List.mem_cons_of_mem _ hd))
    rw [transliterate, List.flatMap_cons]
    rw [transliterate] at tail
    rw [tail, transliterateChar, if_pos (h c List.mem_cons_self)]
    rfl

/-- A capitalised word at the end of a text ends the joined parts of its name. -/
theorem joined_nameParts_append (s : String) (c : Char) (small : List Char)
    (word : IsWord (c :: small)) (ascii : ∀ d ∈ c :: small, isAscii d = true)
    (hs : ∀ d ∈ small, isAsciiUpper d = false) :
    ∃ front, joined (nameParts (s ++ String.ofList (c :: small))) = front ++ c :: small := by
  obtain ⟨before, front, split⟩ := wordsFrom_append word [] (transliterate s.toList)
  obtain ⟨humpsBefore, humpsFront, cut⟩ := humpsFrom_append c hs [] front
  have parts : nameParts (s ++ String.ofList (c :: small)) =
      before.flatMap humps ++ humpsBefore ++ [humpsFront ++ c :: small] := by
    rw [nameParts, String.toList_append, String.toList_ofList, transliterate_append,
      transliterate_of_isAscii ascii, words, split, List.flatMap_append, List.flatMap_singleton,
      humps, cut, List.append_assoc]
  obtain ⟨joinedFront, ends⟩ :=
    joined_append (before.flatMap humps ++ humpsBefore) (humpsFront ++ c :: small)
  exact ⟨joinedFront ++ humpsFront, by rw [parts, ends, List.append_assoc]⟩

end Ending

end ScreenNavigation.Naming
