import Mathlib.Data.List.Chain
import Mathlib.Data.List.DropRight
import ScreenNavigation.Proofs.Naming.LegalNames

/-! Sanitized names. Texts of letters, digits and single underscores between them are exactly the joined
words, so they are what sanitizing gives and what it keeps. The same text comes out when runs of characters
become underscores one kind after the other. -/
namespace ScreenNavigation.Naming

open Text

/-- Letters, digits and underscores, no two underscores in a row and none at an end. -/
structure IsSanitized (cs : List Char) : Prop where
  characters : ∀ c ∈ cs, isWordCharacter c = true
  single : cs.IsChain fun c d => c = '_' → d ≠ '_'
  first : cs.head? ≠ some '_'
  last : cs.getLast? ≠ some '_'

theorem ne_underscore_of_isWordLetter {c : Char} (letter : isWordLetter c = true) : c ≠ '_' := by
  rintro rfl
  exact absurd letter (by decide)

/-- Of the characters of sanitized names only the underscore is no letter. -/
theorem isWordLetter_of_ne_underscore {c : Char} (character : isWordCharacter c = true) (other : c ≠ '_') :
    isWordLetter c = true := by
  simpa [isWordCharacter, isWordLetter, other] using character

section Joined

variable {ws : List (List Char)}

private theorem head?_joined (h : ∀ w ∈ ws, IsWord w) : ∀ c ∈ (joined ws).head?, isWordLetter c = true := by
  intro c hc
  cases ws with
  | nil => simp [joined] at hc
  | cons w rest =>
    obtain ⟨filled, letters⟩ := h w List.mem_cons_self
    have own : (joined (w :: rest)).head? = w.head? := by
      cases rest with
      | nil => rw [joined, List.intercalate_singleton]
      | cons v rest => rw [joined_cons_cons, List.head?_append_of_ne_nil _ filled]
    exact letters c (List.mem_of_mem_head? (own ▸ hc))

private theorem getLast?_joined (h : ∀ w ∈ ws, IsWord w) :
    ∀ c ∈ (joined ws).getLast?, isWordLetter c = true := by
  intro c hc
  rcases List.eq_nil_or_concat ws with rfl | ⟨before, w, rfl⟩
  · simp [joined] at hc
  · rw [List.concat_eq_append] at hc h
    obtain ⟨filled, letters⟩ := h w (List.mem_append_right _ List.mem_cons_self)
    obtain ⟨front, same⟩ := joined_append before w
    rw [same, List.getLast?_append_of_ne_nil _ filled] at hc
    exact letters c (List.mem_of_mem_getLast? hc)

private theorem isChain_joined (h : ∀ w ∈ ws, IsWord w) :
    (joined ws).IsChain fun c d => c = '_' → d ≠ '_' := by
  induction ws with
  | nil => exact .nil
  | cons w rest ih =>
    have letters := (h w List.mem_cons_self).2
    have word : w.IsChain fun c d => c = '_' → d ≠ '_' :=
      (List.pairwise_of_forall_mem_list fun c hc _ _ same =>
        absurd same (ne_underscore_of_isWordLetter (letters c hc))).isChain
    cases rest with
    | nil => rwa [joined, List.intercalate_singleton]
    | cons v rest =>
      have later : ∀ u ∈ v :: rest, IsWord u := fun u hu => h u (List.mem_cons_of_mem _ hu)
      rw [joined_cons_cons, List.isChain_append, List.isChain_cons]
      refine ⟨word, ⟨fun d hd _ => ?_, ih later⟩, fun c hc _ _ same => ?_⟩
      · exact ne_underscore_of_isWordLetter (head?_joined later d hd)
      · exact absurd same (ne_underscore_of_isWordLetter (letters c (List.mem_of_mem_getLast? hc)))

theorem isSanitized_joined (h : ∀ w ∈ ws, IsWord w) : IsSanitized (joined ws) where
  characters := joined_isWordCharacter h
  single := isChain_joined h
  first begins := absurd rfl (ne_underscore_of_isWordLetter (head?_joined h '_' begins))
  last ends := absurd rfl (ne_underscore_of_isWordLetter (getLast?_joined h '_' ends))

end Joined

namespace IsSanitized

variable {cs : List Char}

/-- A word that is open takes the text up to the next underscore. Behind that the text is not at its end and
begins with a letter again. -/
private theorem joined_wordsFrom {word : List Char} (characters : ∀ c ∈ cs, isWordCharacter c = true)
    (single : cs.IsChain fun c d => c = '_' → d ≠ '_') (last : cs.getLast? ≠ some '_')
    (first : word = [] → cs.head? ≠ some '_') : joined (wordsFrom word cs) = word.reverse ++ cs := by
  induction cs generalizing word with
  | nil =>
    rw [wordsFrom, List.append_nil]
    cases word with
    | nil => rfl
    | cons c rest => rw [closed_of_ne_nil (by simp), joined, List.intercalate_singleton]
  | cons c rest ih =>
    obtain ⟨next, tail⟩ := List.isChain_cons.mp single
    have behind : ∀ d ∈ rest, isWordCharacter d = true := fun d hd =>
      characters d (List.mem_cons_of_mem _ hd)
    have ends : rest.getLast? ≠ some '_' := fun under => last (by
      rw [List.getLast?_cons, under]
      rfl)
    rw [wordsFrom]
    split
    · rw [ih behind tail ends fun none => absurd none (List.cons_ne_nil _ _), List.reverse_cons,
        List.append_assoc, List.singleton_append]
    · rename_i separator
      obtain rfl : c = '_' := by
        by_contra other
        exact separator (isWordLetter_of_ne_underscore (characters c List.mem_cons_self) other)
      have opened : word ≠ [] := fun none => first none rfl
      have later : joined (wordsFrom [] rest) = rest :=
        ih behind tail ends fun _ under => next '_' under rfl rfl
      rw [closed_of_ne_nil opened]
      cases more : wordsFrom [] rest with
      | nil =>
        rw [more] at later
        obtain rfl : rest = [] := later.symm
        exact absurd rfl last
      | cons v vs =>
        rw [List.singleton_append, joined_cons_cons, ← more, later]

theorem joined_words (h : IsSanitized cs) : joined (words cs) = cs :=
  joined_wordsFrom h.characters h.single h.last fun _ => h.first

theorem isAscii (h : IsSanitized cs) : ∀ c ∈ cs, Text.isAscii c = true := fun c hc =>
  isAscii_of_isWordCharacter (h.characters c hc)

end IsSanitized

section Runs

/-- Every run of characters of the kind becomes one underscore. -/
def underscored (kind : Char → Bool) : List Char → List Char
  | [] => []
  | c :: rest =>
    if kind c then '_' :: underscored kind (rest.dropWhile kind) else c :: underscored kind rest
termination_by cs => cs.length
decreasing_by
  · exact Nat.lt_succ_of_le (List.dropWhile_sublist kind).length_le
  · exact Nat.lt_succ_self _

/-- Other characters become underscores, and then underscores in a row become one. -/
def merged (cs : List Char) : List Char := underscored (· == '_') (underscored (!isWordCharacter ·) cs)

/-- The text without underscores at its ends. -/
def trimmed (cs : List Char) : List Char := (cs.dropWhile (· == '_')).rdropWhile (· == '_')

section Kinds

variable {kind : Char → Bool} (apart : ∀ c, kind c = true → isWordLetter c = false)

include apart

private theorem words_dropWhile (cs : List Char) : words (cs.dropWhile kind) = words cs := by
  induction cs with
  | nil => rfl
  | cons c rest ih =>
    cases separator : kind c with
    | false => rw [List.dropWhile_cons_of_neg (by simp [separator])]
    | true =>
      rw [List.dropWhile_cons_of_pos separator, ih]
      exact (words_append_separator (apart c separator) [] rest).symm

private theorem words_rdropWhile (cs : List Char) : words (cs.rdropWhile kind) = words cs := by
  induction cs using List.reverseRecOn with
  | nil => rfl
  | append_singleton front c ih =>
    rw [List.rdropWhile_concat]
    split
    · rename_i separator
      rw [ih, words_append_separator (apart c separator)]
      exact (List.append_nil _).symm
    · rfl

private theorem wordsFrom_underscored (word cs : List Char) :
    wordsFrom word (underscored kind cs) = wordsFrom word cs := by
  fun_induction underscored kind cs generalizing word with
  | case1 => rfl
  | case2 c rest separator ih =>
    have dropped := words_dropWhile apart rest
    rw [words, words] at dropped
    rw [wordsFrom, wordsFrom, apart c separator, not_isWordLetter_underscore,
      if_neg Bool.false_ne_true, if_neg Bool.false_ne_true, ih, dropped]
  | case3 c rest other ih => rw [wordsFrom, wordsFrom, ih, ih]

end Kinds

variable {kind : Char → Bool} {cs : List Char}

private theorem mem_underscored {d : Char} (hd : d ∈ underscored kind cs) :
    d = '_' ∨ d ∈ cs ∧ kind d = false := by
  fun_induction underscored kind cs with
  | case1 => cases hd
  | case2 c rest separator ih =>
    rcases List.mem_cons.mp hd with rfl | behind
    · exact .inl rfl
    · exact (ih behind).imp_right fun ⟨later, other⟩ =>
        ⟨List.mem_cons_of_mem _ ((List.dropWhile_sublist kind).subset later), other⟩
  | case3 c rest other ih =>
    rcases List.mem_cons.mp hd with rfl | behind
    · exact .inr ⟨List.mem_cons_self, by simpa using other⟩
    · exact (ih behind).imp_right (And.imp_left (List.mem_cons_of_mem _))

private theorem merged_isWordCharacter (cs : List Char) : ∀ c ∈ merged cs, isWordCharacter c = true := by
  have mark : isWordCharacter '_' = true := by decide
  intro c hc
  rcases mem_underscored hc with rfl | ⟨once, -⟩
  · exact mark
  · rcases mem_underscored once with rfl | ⟨-, character⟩
    · exact mark
    · simpa using character

private theorem head?_dropWhile_ne (cs : List Char) : (cs.dropWhile (· == '_')).head? ≠ some '_' := by
  intro begins
  have other := List.head?_dropWhile_not (· == '_') cs
  rw [begins] at other
  cases other

/-- Behind a run there is no other one, so the underscores of two runs are not in a row. -/
private theorem isChain_underscored (cs : List Char) :
    (underscored (· == '_') cs).IsChain fun c d => c = '_' → d ≠ '_' := by
  have begins (ds : List Char) : (underscored (· == '_') ds).head? = ds.head? := by
    cases ds with
    | nil => rw [underscored]
    | cons c rest =>
      rw [underscored]
      split
      · rename_i under
        rw [List.head?_cons, List.head?_cons, beq_iff_eq.mp under]
      · rfl
  fun_induction underscored (· == '_') cs with
  | case1 => exact .nil
  | case2 c rest under ih =>
    refine List.isChain_cons.mpr ⟨fun d hd _ same => ?_, ih⟩
    rw [begins, same] at hd
    exact head?_dropWhile_ne rest hd
  | case3 c rest other ih =>
    exact List.isChain_cons.mpr ⟨fun d _ under => absurd (beq_iff_eq.mpr under) other, ih⟩

private theorem trimmed_within (cs : List Char) : trimmed cs <:+: cs :=
  (List.rdropWhile_prefix _ _).isInfix.trans (List.dropWhile_suffix _).isInfix

private theorem head?_trimmed_ne (cs : List Char) : (trimmed cs).head? ≠ some '_' := by
  intro begins
  obtain ⟨behind, whole⟩ := List.rdropWhile_prefix (· == '_') (cs.dropWhile (· == '_'))
  refine head?_dropWhile_ne cs ?_
  rw [← whole, List.head?_append, ← trimmed, begins]
  rfl

private theorem getLast?_trimmed_ne (cs : List Char) : (trimmed cs).getLast? ≠ some '_' := by
  intro ends
  obtain ⟨filled, under⟩ := List.mem_getLast?_eq_getLast ends
  exact List.rdropWhile_last_not (· == '_') _ filled (beq_iff_eq.mpr under.symm)

private theorem isChain_trimmed (cs : List Char) :
    (trimmed (merged cs)).IsChain fun c d => c = '_' → d ≠ '_' := by
  obtain ⟨before, behind, whole⟩ := trimmed_within (merged cs)
  have chain := isChain_underscored (underscored (!isWordCharacter ·) cs)
  rw [← merged, ← whole] at chain
  exact chain.left_of_append.right_of_append

theorem isSanitized_trimmed (cs : List Char) : IsSanitized (trimmed (merged cs)) where
  characters c hc := merged_isWordCharacter cs c ((trimmed_within _).subset hc)
  single := isChain_trimmed cs
  first := head?_trimmed_ne _
  last := getLast?_trimmed_ne _

private theorem words_trimmed (cs : List Char) : words (trimmed (merged cs)) = words cs := by
  have under : ∀ c, (c == '_') = true → isWordLetter c = false := fun c same =>
    beq_iff_eq.mp same ▸ not_isWordLetter_underscore
  have other : ∀ c, (!isWordCharacter c) = true → isWordLetter c = false := fun c outside => by
    rw [← Bool.not_eq_true]
    intro letter
    rw [isWordCharacter_of_isWordLetter letter] at outside
    cases outside
  calc
    _ = words (merged cs) := by rw [trimmed, words_rdropWhile under, words_dropWhile under]
    _ = wordsFrom [] (underscored (!isWordCharacter ·) cs) := wordsFrom_underscored under [] _
    _ = words cs := wordsFrom_underscored other [] cs

/-- Runs that become underscores leave the words of a text, with one underscore between them. -/
theorem joined_words_eq (cs : List Char) : joined (words cs) = trimmed (merged cs) := by
  rw [← words_trimmed, (isSanitized_trimmed cs).joined_words]

end Runs

/-- The spelling leaves ASCII text alone. -/
def KeepsAscii (spell : List Char → List Char) : Prop :=
  ∀ cs, (∀ c ∈ cs, isAscii c = true) → spell cs = cs

/-- The function brings names to a normal form. -/
structure Sanitizes (sanitizer : String → String) : Prop where
  sanitized : ∀ s, IsSanitized (sanitizer s).toList
  idempotent : ∀ s, sanitizer (sanitizer s) = sanitizer s
  unchanged : ∀ s, sanitizer s = s ↔ IsSanitized s.toList

section Names

variable (spell : List Char → List Char) (s : String)

theorem toList_sanitizedBy : (sanitizedBy spell s).toList = joined (words (spell s.toList)) :=
  String.toList_ofList

theorem isSanitized_sanitizedBy : IsSanitized (sanitizedBy spell s).toList := by
  rw [toList_sanitizedBy]
  exact isSanitized_joined (words_isWord _)

end Names

theorem sanitizedBy_eq_self {spell : List Char → List Char} (keeps : KeepsAscii spell) {s : String}
    (h : IsSanitized s.toList) : sanitizedBy spell s = s := by
  rw [← String.toList_inj, toList_sanitizedBy, keeps _ h.isAscii, h.joined_words]

/-- Sanitizing gives letters, digits and single underscores inside, whatever the spelling. A spelling that
leaves ASCII text alone makes it a normal form: what has that form is kept, and only that. It is the text in
which runs of other characters, and then runs of underscores, have become one underscore each, without
those at the ends. -/
theorem sanitizing_normalizes {spell : List Char → List Char} (keeps : KeepsAscii spell) :
    Sanitizes (sanitizedBy spell) ∧
      ∀ s, (sanitizedBy spell s).toList = trimmed (merged (spell s.toList)) := by
  refine ⟨⟨isSanitized_sanitizedBy spell, fun s => ?_, fun s => ⟨fun same => ?_, ?_⟩⟩, fun s => ?_⟩
  · exact sanitizedBy_eq_self keeps (isSanitized_sanitizedBy spell s)
  · rw [← same]
    exact isSanitized_sanitizedBy spell s
  · exact sanitizedBy_eq_self keeps
  · rw [toList_sanitizedBy, joined_words_eq]

theorem sanitizing_normalizes_transliterated : KeepsAscii transliterate ∧ Sanitizes sanitize ∧
    (sanitize "--user__(2nd id)_").toList = trimmed (merged "--user__(2nd id)_".toList) ∧
    sanitize "--user__(2nd id)_" = "user_2nd_id" := by
  have keeps : KeepsAscii transliterate := fun _ => transliterate_of_isAscii
  obtain ⟨all, steps⟩ := sanitizing_normalizes keeps
  have whole := steps "--user__(2nd id)_"
  rw [keeps _ (List.all_eq_true.mp (by decide))] at whole
  exact ⟨keeps, all, whole, by decide +kernel⟩

end ScreenNavigation.Naming
