import Mathlib.Tactic.SplitIfs
import ScreenNavigation.Proofs.Json.ReaderSteps

/-! Strings and whole numbers that were written, read again. A string is read one written character at a
time, and a number up to the first character that is no digit. -/
namespace ScreenNavigation.Json.Reader

variable {c d : Cursor} {more rest : List Char}

section Strings

variable {ch : Char}

private theorem gives_escaped_simple {mark : Char} (h : c.rest = mark :: more) (other : mark ≠ 'u')
    (named : simpleEscape? mark = some ch) : Gives escaped c ch more := by
  refine Gives.peek ?_
  rw [h, List.head?_cons]
  split
  · rename_i none
    cases none
  · rename_i found
    exact absurd (Option.some.inj found) other
  · rename_i _ found
    cases found
    rw [named]
    exact Gives.skip h fun d left _ => left ▸ .pure ch d

private theorem stepBytes_four {a b e f : Char} (h : c.rest = a :: b :: e :: f :: more)
    (small : ∀ x ∈ [a, b, e, f], x.utf8Size = 1) :
    ∃ d : Cursor, stepBytes c 4 4 = (d, true) ∧ d.rest = more ∧ d.depth = c.depth := by
  have one {c : Cursor} {x : Char} {rest : List Char} {n : Nat} (h : c.rest = x :: rest)
      (size : x.utf8Size = 1) : stepBytes c (n + 1) (n + 1) = stepBytes c.step n n := by
    rw [stepBytes, h]
    dsimp only
    rw [size, if_pos (Nat.le_add_left 1 n), Nat.add_sub_cancel]
  obtain ⟨ha, da⟩ := rest_step h
  obtain ⟨hb, db⟩ := rest_step ha
  obtain ⟨he, de⟩ := rest_step hb
  obtain ⟨hf, df⟩ := rest_step he
  refine ⟨c.step.step.step.step, ?_, hf, df.trans (de.trans (db.trans da))⟩
  rw [one h (small a (by simp)), one ha (small b (by simp)), one hb (small e (by simp)),
    one he (small f (by simp)), stepBytes]

private theorem hexDigit_spec :
    ∀ n < 16, hexValue? (hexDigit n) = some n ∧ (hexDigit n).utf8Size = 1 := by decide

/-- A control character by its number. -/
private theorem gives_escaped_number (control : ch.toNat < 0x20)
    (h : c.rest = 'u' :: '0' :: '0' :: hexDigit (ch.toNat / 16) :: hexDigit (ch.toNat % 16) :: more) :
    Gives escaped c ch more := by
  obtain ⟨high, highSize⟩ := hexDigit_spec (ch.toNat / 16) (by omega)
  obtain ⟨low, lowSize⟩ := hexDigit_spec (ch.toNat % 16) (by omega)
  have zero : hexValue? '0' = some 0 := by decide
  have value : ((0 * 16 + 0) * 16 + ch.toNat / 16) * 16 + ch.toNat % 16 = ch.toNat := by omega
  refine Gives.peek ?_
  rw [h, List.head?_cons]
  refine Gives.skip h fun d left depth => ?_
  have hex : Gives hexEscape d ch.toNat more := by
    obtain ⟨e, stepped, left', depth'⟩ := stepBytes_four left (by
      simp only [List.mem_cons, List.not_mem_nil, or_false, forall_eq_or_imp, forall_eq]
      exact ⟨by decide, by decide, highSize, lowSize⟩)
    refine ⟨e, ?_, left', depth'⟩
    rw [hexEscape, stepped]
    simp only [left, List.take_succ_cons, List.take_zero, List.mapM_cons, List.mapM_nil, zero, high, low,
      Option.bind_eq_bind, Option.bind_some, Option.pure_def, value]
  refine hex.bind fun e left' _ => ?_
  have leading : isLeading ch.toNat = false := by
    simp only [isLeading, Bool.and_eq_false_imp, decide_eq_true_eq]
    omega
  have trailing : isTrailing ch.toNat = false := by
    simp only [isTrailing, Bool.and_eq_false_imp, decide_eq_true_eq]
    omega
  rw [trailing, leading, if_neg Bool.false_ne_true, if_neg Bool.false_ne_true, Char.ofNat_toNat]
  exact left' ▸ .pure ch e

private theorem gives_stringBody_escaped {taken : List Char} {fuel : Nat} {s : String} {text : List Char}
    (h : c.rest = '\\' :: text)
    (read : ∀ d : Cursor, d.rest = text → Gives escaped d ch more)
    (next : ∀ d : Cursor, d.rest = more → d.depth = c.depth →
      Gives (stringBody (ch :: taken) fuel) d s rest) :
    Gives (stringBody taken (fuel + 1)) c s rest := by
  refine Gives.peek ?_
  rw [h, List.head?_cons]
  exact Gives.skip h fun d left depth =>
    (read d left).bind fun e left' depth' => next e left' (depth'.trans depth)

/-- How a character is written: by a mark of its own, by its number, or as itself. -/
private theorem escape_cases (ch : Char) :
    (∃ mark, mark ≠ 'u' ∧ simpleEscape? mark = some ch ∧ (escape ch).toList = ['\\', mark]) ∨
      ch.toNat < 0x20 ∧ (escape ch).toList =
        ['\\', 'u', '0', '0', hexDigit (ch.toNat / 16), hexDigit (ch.toNat % 16)] ∨
      (ch ≠ '\x22' ∧ ch ≠ '\\' ∧ ¬ ch.toNat < 0x20) ∧ (escape ch).toList = [ch] := by
  have named (n : Nat) (h : ch.toNat = n) : ch = Char.ofNat n := by rw [← h, Char.ofNat_toNat]
  unfold escape
  split_ifs with quote backslash newline back tab eight twelve control
  · exact .inl ⟨'\x22', by decide, by rw [quote]; rfl, rfl⟩
  · exact .inl ⟨'\\', by decide, by rw [backslash]; rfl, rfl⟩
  · exact .inl ⟨'n', by decide, newline ▸ rfl, rfl⟩
  · exact .inl ⟨'r', by decide, back ▸ rfl, rfl⟩
  · exact .inl ⟨'t', by decide, tab ▸ rfl, rfl⟩
  · exact .inl ⟨'b', by decide, named 8 eight ▸ rfl, rfl⟩
  · exact .inl ⟨'f', by decide, named 12 twelve ▸ rfl, rfl⟩
  · refine .inr (.inl ⟨control, ?_⟩)
    rw [String.toList_append,
      String.toList_ofList (l := [hexDigit (ch.toNat / 16), hexDigit (ch.toNat % 16)])]
    rfl
  · exact .inr (.inr ⟨⟨quote, backslash, control⟩, by rw [Char.toString, String.toList_singleton]⟩)

/-- One written character is read as the character. -/
private theorem gives_stringBody_escape {taken : List Char} {fuel : Nat} {s : String}
    (h : c.rest = (escape ch).toList ++ more)
    (next : ∀ d : Cursor, d.rest = more → d.depth = c.depth →
      Gives (stringBody (ch :: taken) fuel) d s rest) :
    Gives (stringBody taken (fuel + 1)) c s rest := by
  obtain ⟨mark, other, named, text⟩ | ⟨control, text⟩ | ⟨⟨quote, backslash, control⟩, text⟩ :=
    escape_cases ch
  · rw [text] at h
    exact gives_stringBody_escaped h (fun d left => gives_escaped_simple left other named) next
  · rw [text] at h
    exact gives_stringBody_escaped h (fun d left => gives_escaped_number control left) next
  · rw [text] at h
    refine Gives.peek ?_
    rw [h, List.singleton_append, List.head?_cons]
    split
    · rename_i none
      cases none
    · rename_i found
      exact absurd (Option.some.inj found) quote
    · rename_i found
      exact absurd (Option.some.inj found) backslash
    · rename_i _ found
      cases found
      rw [if_neg control]
      exact Gives.skip h next

private theorem gives_stringBody (cs taken : List Char) {fuel : Nat} (enough : cs.length ≤ fuel)
    (h : c.rest = cs.flatMap (fun ch => (escape ch).toList) ++ '\x22' :: rest) :
    Gives (stringBody taken (fuel + 1)) c (String.ofList (taken.reverse ++ cs)) rest := by
  induction cs generalizing c taken fuel with
  | nil =>
    refine Gives.peek ?_
    rw [h, List.flatMap_nil, List.nil_append, List.head?_cons, List.append_nil]
    exact Gives.skip h fun d left _ => left ▸ .pure _ d
  | cons ch more ih =>
    obtain ⟨fuel, rfl⟩ := Nat.exists_eq_succ_of_ne_zero (Nat.ne_of_gt (Nat.zero_lt_of_lt enough))
    rw [List.flatMap_cons, List.append_assoc] at h
    refine gives_stringBody_escape h fun d left _ => ?_
    have later := ih (ch :: taken) (Nat.le_of_succ_le_succ enough) left
    rwa [List.reverse_cons, List.append_assoc, List.singleton_append] at later

theorem toList_writeString (s : String) : (writeString s).toList =
    '\x22' :: s.toList.flatMap (fun ch => (escape ch).toList) ++ ['\x22'] := by
  rw [writeString, String.toList_append, String.toList_append, String.toList_join, List.flatMap_map]
  rfl

/-- A written string is read behind its opening mark. -/
theorem gives_stringRest (s : String)
    (h : c.rest = s.toList.flatMap (fun ch => (escape ch).toList) ++ '\x22' :: rest) :
    Gives stringRest c s rest := by
  have short : s.toList.length ≤ c.rest.length := by
    have each : ∀ cs : List Char, cs.length ≤ (cs.flatMap fun ch => (escape ch).toList).length := by
      intro cs
      induction cs with
      | nil => exact Nat.le_refl 0
      | cons ch more ih =>
        have some : 1 ≤ (escape ch).toList.length := by
          obtain ⟨mark, -, -, text⟩ | ⟨-, text⟩ | ⟨-, text⟩ := escape_cases ch <;> simp [text]
        rw [List.flatMap_cons, List.length_append, List.length_cons]
        omega
    have := each s.toList
    rw [h, List.length_append]
    omega
  refine (gives_remaining c).bind fun d left _ => ?_
  have read := gives_stringBody s.toList [] short (left ▸ h)
  rwa [List.reverse_nil, List.nil_append, String.ofList_toList] at read

end Strings

section Numbers

/-- What stands behind a written value: a mark, or the end of the text. -/
def IsBehind (rest : List Char) : Prop := ∀ ch ∈ rest.head?, ch ∈ [',', ']', '\x7d']

theorem isBehind_cons {ch : Char} (h : ch ∈ [',', ']', '\x7d']) (more : List Char) : IsBehind (ch :: more) :=
  fun _ same => Option.some.inj same ▸ h

theorem IsBehind.head (h : IsBehind rest) :
    rest.head? = none ∨ ∃ ch, rest.head? = some ch ∧ ch.isDigit = false ∧ ch ≠ '.' ∧
      isExponentMark (some ch) = false := by
  have marks : ∀ ch ∈ [',', ']', '\x7d'], ch.isDigit = false ∧ ch ≠ '.' ∧
      isExponentMark (some ch) = false := by
    intro ch mark
    simp only [List.mem_cons, List.not_mem_nil, or_false] at mark
    rcases mark with rfl | rfl | rfl <;> decide
  cases head : rest.head? with
  | none => exact .inl rfl
  | some ch => exact .inr ⟨ch, rfl, marks ch (h ch head)⟩

private theorem digitsFrom_eq (ds taken : List Char) {fuel : Nat} (enough : ds.length ≤ fuel)
    (digits : ∀ d ∈ ds, d.isDigit = true) (behind : IsBehind rest) (h : c.rest = ds ++ rest) :
    ∃ d : Cursor, digitsFrom c taken fuel = (taken.reverse ++ ds, d) ∧ d.rest = rest ∧
      d.depth = c.depth := by
  induction ds generalizing c taken fuel with
  | nil =>
    refine ⟨c, ?_, h, rfl⟩
    rw [List.append_nil]
    cases fuel with
    | zero => rfl
    | succ fuel =>
      rw [digitsFrom, h, List.nil_append]
      obtain none | ⟨ch, found, other, -⟩ := behind.head
      · rw [none]
      · rw [found]
        exact if_neg (by rw [other]; exact Bool.false_ne_true)
  | cons ch more ih =>
    obtain ⟨fuel, rfl⟩ := Nat.exists_eq_succ_of_ne_zero (Nat.ne_of_gt (Nat.zero_lt_of_lt enough))
    obtain ⟨left, depth⟩ := rest_step h
    obtain ⟨d, read, left', depth'⟩ := ih (ch :: taken) (Nat.le_of_succ_le_succ enough)
      (fun d hd => digits d (List.mem_cons_of_mem _ hd)) left
    refine ⟨d, ?_, left', depth'.trans depth⟩
    rw [digitsFrom, h, List.cons_append, List.head?_cons]
    dsimp only
    rw [if_pos (digits ch List.mem_cons_self), read, List.reverse_cons, List.append_assoc,
      List.singleton_append]

private theorem gives_digits (ds : List Char) (digits : ∀ d ∈ ds, d.isDigit = true)
    (behind : IsBehind rest) (h : c.rest = ds ++ rest) : Gives Reader.digits c ds rest := by
  have enough : ds.length ≤ c.rest.length := by simp [h]
  obtain ⟨d, read, left⟩ := digitsFrom_eq ds [] enough digits behind h
  refine ⟨d, ?_, left⟩
  rw [Reader.digits, read]
  rfl

/-- Only zero is written with a leading zero. -/
private theorem head_toDigits {n : Nat} (pos : 0 < n) :
    ∃ ch more, Nat.toDigits 10 n = ch :: more ∧ ch ≠ '0' ∧ ch.isDigit = true := by
  induction n using Nat.strongRecOn with
  | ind n ih =>
    rw [Nat.toDigits_eq_if (by decide)]
    split
    · rename_i small
      have single : ∀ n < 10, 0 < n → n.digitChar ≠ '0' ∧ n.digitChar.isDigit = true := by decide
      exact ⟨_, [], rfl, single n small pos⟩
    · obtain ⟨ch, more, same, first⟩ := ih (n / 10) (by omega) (by omega)
      exact ⟨ch, more ++ [(n % 10).digitChar], by rw [same, List.cons_append], first⟩

private theorem gives_wholeDigits (n : Nat) (behind : IsBehind rest)
    (h : c.rest = Nat.toDigits 10 n ++ rest) : Gives wholeDigits c (Nat.toDigits 10 n) rest := by
  rcases Nat.eq_zero_or_pos n with rfl | pos
  · have zero : c.rest = '0' :: rest := h
    refine Gives.peek ?_
    rw [zero, List.head?_cons]
    refine Gives.skip zero fun d left _ => Gives.peek ?_
    rw [left]
    obtain none | ⟨ch, found, other, -⟩ := behind.head
    · rw [none]
      exact left ▸ .pure _ d
    · rw [found]
      dsimp only
      rw [other, if_neg Bool.false_ne_true]
      exact left ▸ .pure _ d
  · obtain ⟨ch, more, same, nonzero, digit⟩ := head_toDigits pos
    refine Gives.peek ?_
    have first : c.rest.head? = some ch := by rw [h, same, List.cons_append, List.head?_cons]
    rw [first]
    split
    · rename_i none
      cases none
    · rename_i found
      exact absurd (Option.some.inj found) nonzero
    · rename_i _ found
      cases found
      rw [if_pos digit]
      exact gives_digits _ (fun _ => Nat.isDigit_of_mem_toDigits (by decide) (by decide)) behind h

private theorem le_ofDigitChars (ds : List Char) (v : Nat) : v ≤ Nat.ofDigitChars 10 ds v := by
  induction ds generalizing v with
  | nil => exact Nat.le_refl v
  | cons d more ih =>
    have step : v ≤ 10 * v + (d.toNat - '0'.toNat) := by omega
    exact Nat.le_trans step (ih _)

/-- Digits of a number of 64 bits all enter the significand. -/
private theorem foldl_addWhole (ds : List Char) {v : Nat}
    (fits : Nat.ofDigitChars 10 ds v < 0x10000000000000000) :
    ds.foldl Significand.addWhole ⟨v, 0, false⟩ = ⟨Nat.ofDigitChars 10 ds v, 0, false⟩ := by
  induction ds generalizing v with
  | nil => rfl
  | cons d more ih =>
    have next : Nat.ofDigitChars 10 (d :: more) v =
        Nat.ofDigitChars 10 more (10 * v + (d.toNat - '0'.toNat)) := rfl
    have value : v * 10 + digitValue d = 10 * v + (d.toNat - '0'.toNat) := by rw [digitValue]; omega
    rw [next] at fits ⊢
    have small : ¬ 0x10000000000000000 ≤ v * 10 + digitValue d := by
      have := le_ofDigitChars more (10 * v + (d.toNat - '0'.toNat))
      rw [value]
      omega
    have step : Significand.addWhole ⟨v, 0, false⟩ d = ⟨10 * v + (d.toNat - '0'.toNat), 0, false⟩ := by
      rw [Significand.addWhole, if_neg Bool.false_ne_true, if_neg small, value]
    rw [List.foldl_cons, step, ih fits]

/-- A whole number is read from its digits, behind its sign. -/
theorem gives_number {negative : Bool} {w : Whole} {n : Nat}
    (value : w.value = if negative then -(n : Int) else n) (signed : negative = true → n ≠ 0)
    (behind : IsBehind rest) (h : c.rest = Nat.toDigits 10 n ++ rest) :
    Gives (number negative) c (.whole w) rest := by
  have fits : Nat.ofDigitChars 10 (Nat.toDigits 10 n) 0 < 0x10000000000000000 := by
    have low := w.lower
    have high := w.upper
    rw [Nat.ofDigitChars_ten_toDigits]
    split at value <;> omega
  have kept : Whole.ofInt? (if negative then -(n : Int) else n) = some w := by
    rw [← value, Whole.ofInt?, dif_pos ⟨w.lower, w.upper⟩]
  have unsigned : (negative && (if negative then -(n : Int) else n) == 0) = false := by
    cases negative with
    | true => simpa using signed rfl
    | false => rfl
  refine (gives_wholeDigits n behind h).bind fun d left _ => ?_
  rw [foldl_addWhole _ fits, Nat.ofDigitChars_ten_toDigits]
  refine Gives.peek ?_
  rw [left]
  have plain : isExponentMark rest.head? = false := by
    obtain none | ⟨ch, found, -, -, other⟩ := behind.head
    · rw [none]
      rfl
    · rw [found, other]
  split
  · rename_i point
    obtain none | ⟨ch, found, -, other, -⟩ := behind.head
    · rw [none] at point
      cases point
    · rw [found] at point
      exact absurd (Option.some.inj point) other
  · rw [plain, if_neg Bool.false_ne_true, if_neg Bool.false_ne_true]
    dsimp only
    rw [kept, unsigned]
    exact left ▸ .pure _ d

end Numbers

end ScreenNavigation.Json.Reader
