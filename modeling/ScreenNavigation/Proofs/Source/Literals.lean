import ScreenNavigation.Decimal.Reading
import ScreenNavigation.Source.Token
import ScreenNavigation.Text.Quoted

/-! Literals as they are read. A character and a text stand between quotation marks, and reading undoes every
escape between them. -/
namespace ScreenNavigation.Source.Literals

open Text

/-- Decimal digits without a sign. -/
def natural? (s : String) : Option Nat :=
  if s.isEmpty || !s.toList.all Char.isDigit then none else some (Decimal.digitsValue s.toList)

/-- Digits around a point, as the nearest number of a format. -/
def real? (f : Decimal.Format) (s : String) : Option (Decimal.Extended f) :=
  match s.toList.dropWhile Char.isDigit with
  | '.' :: fraction =>
    if (s.toList.takeWhile Char.isDigit).isEmpty || !fraction.all Char.isDigit then none
    else (Decimal.Extended.read f s).toOption
  | _ => none

/-- A literal, and whether a minus stands in front of it. -/
def signed? : List Token → Option (Bool × String)
  | [.literal s] => some (false, s)
  | [.mark '-' false, .literal s] => some (true, s)
  | _ => none

def hexDigit? (c : Char) : Option Nat :=
  if c.isDigit then some (c.toNat - 48)
  else if 'a' ≤ c ∧ c ≤ 'f' then some (c.toNat - 87)
  else if 'A' ≤ c ∧ c ≤ 'F' then some (c.toNat - 55)
  else none

def hex? (cs : List Char) : Option Nat := cs.foldlM (fun n c => (hexDigit? c).map (16 * n + ·)) 0

/-- The character of a number, if there is one. -/
def ofNumber? (n : Nat) : Option Char := if n.isValidChar then some (Char.ofNat n) else none

/-- Whether a character stands for itself between two marks. -/
def isPlain (mark c : Char) : Bool :=
  c != mark && c != '\r' && (mark == quoteMark || (c != '\n' && c != '\t'))

/-- The number of a character up to a closing brace, with what is behind the brace. -/
def codePoint? (cs : List Char) : Option (Char × List Char) :=
  let ds := cs.takeWhile (· != '\x7d')
  match cs.dropWhile (· != '\x7d') with
  | _ :: rest =>
    if ds.isEmpty || 6 < ds.length then none else ((hex? ds).bind ofNumber?).map (·, rest)
  | [] => none

/-- What follows a backslash, and what is behind it. -/
def escape? : List Char → Option (Char × List Char)
  | 'n' :: rest => some ('\n', rest)
  | 'r' :: rest => some ('\r', rest)
  | 't' :: rest => some ('\t', rest)
  | '\\' :: rest => some ('\\', rest)
  | '0' :: rest => some ('\x00', rest)
  | '\x27' :: rest => some ('\x27', rest)
  | '\x22' :: rest => some ('\x22', rest)
  | 'x' :: a :: b :: rest =>
    ((hex? [a, b]).filter (· < 0x80)).map fun n => (Char.ofNat n, rest)
  | 'u' :: '\x7b' :: rest => codePoint? rest
  | _ => none

/-- One character between two marks, with what is behind it. -/
def character? (mark : Char) : List Char → Option (Char × List Char)
  | '\\' :: rest => escape? rest
  | c :: rest => if isPlain mark c then some (c, rest) else none
  | [] => none

section Shorter

variable {c : Char} {cs rest : List Char}

private theorem codePoint?_length_lt (read : codePoint? cs = some (c, rest)) : rest.length < cs.length := by
  have shorter := (List.dropWhile_sublist (l := cs) (· != '\x7d')).length_le
  unfold codePoint? at read
  dsimp only at read
  split at read
  · rename_i behind brace
    rw [brace, List.length_cons] at shorter
    split at read
    · cases read
    · obtain ⟨d, _, same⟩ := Option.map_eq_some_iff.mp read
      cases same
      exact shorter
  · cases read

private theorem escape?_length_lt (read : escape? cs = some (c, rest)) : rest.length < cs.length := by
  unfold escape? at read
  split at read
  case h_8 =>
    obtain ⟨n, _, same⟩ := Option.map_eq_some_iff.mp read
    cases same
    simp only [List.length_cons]
    omega
  case h_9 =>
    have shorter := codePoint?_length_lt read
    simp only [List.length_cons]
    omega
  case h_10 => cases read
  all_goals
    cases read
    exact Nat.lt_succ_self _

theorem character?_length_lt {mark : Char} (read : character? mark cs = some (c, rest)) :
    rest.length < cs.length := by
  unfold character? at read
  split at read
  · exact Nat.lt_succ_of_lt (escape?_length_lt read)
  · split at read
    · cases read
      exact Nat.lt_succ_self _
    · cases read
  · cases read

end Shorter

/-- The characters of a text up to the mark at its end. -/
def characters? (cs : List Char) : Option (List Char) :=
  if cs = [quoteMark] then some [] else
    match h : character? quoteMark cs with
    | some (c, rest) =>
      have := character?_length_lt h
      (characters? rest).map (c :: ·)
    | none => none
termination_by cs.length

def char? (s : String) : Option Char :=
  match s.toList with
  | '\x27' :: cs =>
    match character? singleMark cs with
    | some (c, ['\x27']) => some c
    | _ => none
  | _ => none

def string? (s : String) : Option String :=
  match s.toList with
  | '\x22' :: cs => (characters? cs).map String.ofList
  | _ => none

section Written

private theorem hexDigit?_digitChar : ∀ d < 16, hexDigit? (Nat.digitChar d) = some d := by decide

private theorem hex?_concat (cs : List Char) (c : Char) :
    hex? (cs ++ [c]) = (hex? cs).bind fun n => (hexDigit? c).map (16 * n + ·) := by
  simp [hex?, List.foldlM_append]

private theorem hex?_toDigits (n : Nat) : hex? (Nat.toDigits 16 n) = some n := by
  induction n using Nat.strongRecOn with
  | ind n ih =>
    rw [Nat.toDigits_eq_if (by decide)]
    split
    · rename_i small
      exact (hex?_concat [] _).trans (by rw [hexDigit?_digitChar n small]; simp [hex?])
    · rename_i large
      rw [hex?_concat, ih (n / 16) (by omega), hexDigit?_digitChar _ (Nat.mod_lt n (by decide)),
        Option.bind_some, Option.map_some, Nat.div_add_mod]

private theorem digitChar_ne_brace : ∀ d < 16, Nat.digitChar d ≠ '\x7d' := by decide

private theorem ne_brace_of_mem_toDigits (n : Nat) : ∀ c ∈ Nat.toDigits 16 n, c ≠ '\x7d' := by
  induction n using Nat.strongRecOn with
  | ind n ih =>
    rw [Nat.toDigits_eq_if (by decide)]
    split
    · rename_i small
      exact List.forall_mem_singleton.mpr (digitChar_ne_brace n small)
    · rename_i large
      refine List.forall_mem_append.mpr ⟨ih (n / 16) (by omega), List.forall_mem_singleton.mpr ?_⟩
      exact digitChar_ne_brace _ (Nat.mod_lt n (by decide))

private theorem toNat_lt (c : Char) : c.toNat < 0x1000000 := by
  have valid : c.toNat < 0xd800 ∨ 0xdfff < c.toNat ∧ c.toNat < 0x110000 := c.valid
  omega

theorem codePoint?_toDigits (c : Char) (rest : List Char) :
    codePoint? (Nat.toDigits 16 c.toNat ++ '\x7d' :: rest) = some (c, rest) := by
  have digits : ∀ d ∈ Nat.toDigits 16 c.toNat, (d != '\x7d') = true :=
    fun d hd => bne_iff_ne.mpr (ne_brace_of_mem_toDigits _ d hd)
  have given : (Nat.toDigits 16 c.toNat).isEmpty = false := by
    simp [Nat.toDigits_ne_nil]
  have few : ¬ 6 < (Nat.toDigits 16 c.toNat).length :=
    Nat.not_lt.mpr ((Nat.length_toDigits_le_iff (by decide) (by decide)).mpr
      (Nat.lt_of_lt_of_eq (toNat_lt c) (by decide)))
  have number : ofNumber? c.toNat = some c := by
    have valid : c.toNat.isValidChar := c.valid
    rw [ofNumber?, if_pos valid, Char.ofNat_toNat]
  unfold codePoint?
  rw [List.takeWhile_append_of_pos digits, List.dropWhile_append_of_pos digits,
    List.takeWhile_cons_of_neg (by decide), List.dropWhile_cons_of_neg (by decide), List.append_nil]
  dsimp only
  rw [given, Bool.false_or, decide_eq_false few, if_neg Bool.false_ne_true, hex?_toDigits,
    Option.bind_some, number, Option.map_some]

private theorem character?_plain {mark c : Char} (backslash : c ≠ '\\') (plain : isPlain mark c = true)
    (rest : List Char) : character? mark (c :: rest) = some (c, rest) := by
  unfold character?
  split
  · rename_i same
    exact absurd (List.cons.inj same).1 backslash
  · rename_i same
    cases same
    exact if_pos plain
  · rename_i same
    cases same

/-- Reading takes back every escape, whichever of the marks the character stands between. -/
theorem character?_escapeCharacter {mark : Char} (known : mark = quoteMark ∨ mark = singleMark) (c : Char)
    (rest : List Char) : character? mark ((escapeCharacter mark c).toList ++ rest) = some (c, rest) := by
  unfold escapeCharacter
  split
  · rename_i same
    subst same
    rcases known with rfl | rfl <;> rfl
  rename_i notMark
  split
  · rename_i same
    subst same
    rfl
  rename_i notBackslash
  split
  · rename_i same
    subst same
    rfl
  rename_i notNewline
  split
  · rename_i same
    subst same
    rfl
  rename_i notReturn
  split
  · rename_i same
    subst same
    rfl
  rename_i notTab
  split
  · rename_i null
    obtain rfl : c = '\x00' := Char.toNat_inj.mp null
    rfl
  split
  · have plain : isPlain mark c = true := by
      simp [isPlain, notMark, notReturn, notNewline, notTab]
    have shown : c.toString.toList = [c] := by simp
    rw [shown]
    exact character?_plain notBackslash plain rest
  · simp only [codePointEscape, hexDigits, String.toList_append, String.toList_ofList, List.append_assoc]
    exact codePoint?_toDigits c rest

/-- A NUL in front of an octal digit is written in hexadecimal. -/
private theorem exists_literalBody (c : Char) (cs : List Char) : ∃ s, literalBody (c :: cs) = s :: literalBody cs ∧
    ∀ rest, character? quoteMark (s.toList ++ rest) = some (c, rest) := by
  rw [literalBody]
  split
  · rename_i octal
    refine ⟨_, rfl, fun rest => ?_⟩
    obtain rfl : c = '\x00' := Char.toNat_inj.mp octal.1
    rfl
  · exact ⟨_, rfl, character?_escapeCharacter (.inl rfl) c⟩

theorem characters?_literalBody (cs : List Char) :
    characters? ((String.join (literalBody cs)).toList ++ [quoteMark]) = some cs := by
  induction cs with
  | nil =>
    rw [characters?]
    exact if_pos rfl
  | cons c cs ih =>
    obtain ⟨s, written, read⟩ := exists_literalBody c cs
    have joined : (String.join (s :: literalBody cs)).toList = s.toList ++ (String.join (literalBody cs)).toList := by
      simp
    have behind := read ((String.join (literalBody cs)).toList ++ [quoteMark])
    rw [written, joined, List.append_assoc, characters?, if_neg]
    · split
      · rename_i found
        rw [behind] at found
        cases found
        rw [ih, Option.map_some]
      · rename_i none
        rw [behind] at none
        cases none
    · intro last
      rw [last] at behind
      cases behind

/-- A character is read from the literal that shows it. -/
theorem char?_quotedCharacter (c : Char) : char? (quotedCharacter c) = some c := by
  have read := character?_escapeCharacter (.inr rfl) c ['\x27']
  rw [char?, quotedCharacter, String.toList_append, String.toList_append]
  change (match character? singleMark ((escapeCharacter singleMark c).toList ++ ['\x27']) with
    | some (c, ['\x27']) => some c
    | _ => none) = some c
  rw [read]
  rfl

/-- A text is read from the literal that shows it. -/
theorem string?_stringLiteral (s : String) : string? (stringLiteral s) = some s := by
  rw [string?, stringLiteral, String.toList_append, String.toList_append]
  change (characters? ((String.join (literalBody s.toList)).toList ++ [quoteMark])).map String.ofList = some s
  rw [characters?_literalBody, Option.map_some, String.ofList_toList]

theorem natural?_toString (n : Nat) : natural? (toString n) = some n := by
  have digits : (toString n).toList.all Char.isDigit = true := by
    rw [Nat.toString_eq_ofList_toDigits, String.toList_ofList, List.all_eq_true]
    exact fun c => Nat.isDigit_of_mem_toDigits (by decide) (by decide)
  have given : (toString n).isEmpty = false := by
    rw [Nat.toString_eq_ofList_toDigits, String.isEmpty_eq_false_iff]
    exact mt String.ofList_eq_empty_iff.mp Nat.toDigits_ne_nil
  have value : Decimal.digitsValue (toString n).toList = n := by
    rw [Nat.toString_eq_ofList_toDigits, String.toList_ofList]
    exact Nat.ofDigitChars_ten_toDigits
  rw [natural?, digits, given, value]
  rfl

end Written

end ScreenNavigation.Source.Literals
