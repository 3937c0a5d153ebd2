import ScreenNavigation.Proofs.Json.WrittenScalars

/-! Values that were written, read again. A part of a value starts with a character that is neither blank nor
a mark, and behind it stands a mark or the end of the text, so its reader stops where the part does. Real
numbers are left out: they are rounded more than once on the way back and may come out a little different. -/
namespace ScreenNavigation.Json

/-- A value without real numbers, with at most so many lists and objects inside each other. -/
inductive Nested : Nat → Value → Prop where
  | null (n : Nat) : Nested n .null
  | bool (n : Nat) (b : Bool) : Nested n (.bool b)
  | whole (n : Nat) (w : Whole) : Nested n (.number (.whole w))
  | string (n : Nat) (s : String) : Nested n (.string s)
  | array {n : Nat} {items : List Value} (each : ∀ v ∈ items, Nested n v) : Nested (n + 1) (.array items)
  | object {n : Nat} {entries : List (String × Value)} (each : ∀ e ∈ entries, Nested n e.2) :
      Nested (n + 1) (.object entries)

section Texts

variable {α : Type}

theorem Value.writeItems_eq (items : List Value) : writeItems items = items.map write := by
  induction items with
  | nil => rfl
  | cons v rest ih => rw [writeItems, ih, List.map_cons]

def Value.writeEntry (e : String × Value) : String := writeString e.1 ++ ":" ++ e.2.write

theorem Value.writeEntries_eq (entries : List (String × Value)) :
    writeEntries entries = entries.map writeEntry := by
  induction entries with
  | nil => rfl
  | cons e rest ih => rw [writeEntries, ih, List.map_cons, writeEntry]

theorem toList_writeEntry (e : String × Value) : (Value.writeEntry e).toList =
    '\x22' :: (e.1.toList.flatMap (fun ch => (escape ch).toList) ++ '\x22' :: ':' :: e.2.write.toList) := by
  simp [Value.writeEntry, Reader.toList_writeString]

/-- Texts with commas between them, and one in front of the first when others came before. -/
def joined (first : Bool) (text : α → String) : List α → List Char
  | [] => []
  | a :: more => (if first then [] else [',']) ++ ((text a).toList ++ joined false text more)

theorem toList_intercalate_eq_joined (text : α → String) (parts : List α) :
    (String.intercalate "," (parts.map text)).toList = joined true text parts := by
  rw [String.toList_intercalate]
  induction parts with
  | nil => rfl
  | cons a more ih =>
    cases more with
    | nil => simp [joined]
    | cons b more =>
      simp only [List.map_cons, List.intercalate_cons_cons] at ih ⊢
      rw [ih]
      simp [joined]

theorem isBehind_joined (text : α → String) (parts : List α) {close : Char}
    (closing : close ∈ [']', '\x7d']) (rest : List Char) :
    Reader.IsBehind (joined false text parts ++ close :: rest) := by
  cases parts with
  | nil => exact Reader.isBehind_cons (List.mem_cons_of_mem _ closing) rest
  | cons a more => exact Reader.isBehind_cons List.mem_cons_self _

theorem length_le_joined (first : Bool) (text : α → String) (parts : List α)
    (long : ∀ a ∈ parts, (text a).toList ≠ []) : parts.length ≤ (joined first text parts).length := by
  induction parts generalizing first with
  | nil => exact Nat.zero_le _
  | cons a more ih =>
    have := ih false fun b hb => long b (List.mem_cons_of_mem _ hb)
    have := List.length_pos_iff.mpr (long a List.mem_cons_self)
    rw [joined, List.length_append, List.length_append, List.length_cons]
    omega

theorem toList_array (items : List Value) :
    (Value.array items).write.toList = '[' :: (joined true Value.write items ++ [']']) := by
  rw [Value.write, Value.writeItems_eq, String.toList_append, String.toList_append,
    toList_intercalate_eq_joined]
  rfl

theorem toList_object (entries : List (String × Value)) :
    (Value.object entries).write.toList = '\x7b' :: (joined true Value.writeEntry entries ++ ['\x7d']) := by
  rw [Value.write, Value.writeEntries_eq, String.toList_append, String.toList_append,
    toList_intercalate_eq_joined]
  rfl

end Texts

namespace Reader

variable {c : Cursor} {ch : Char} {n : Nat} {v : Value} {text rest : List Char}

abbrev IsStart (ch : Char) : Prop := isJsonBlank ch = false ∧ ch ≠ ',' ∧ ch ≠ ']'

/-- A list does not end in front of the text. -/
def IsStarted (text : List Char) : Prop := ∃ ch more, text = ch :: more ∧ IsStart ch

private theorem isStart_of_isDigit (digit : ch.isDigit = true) : IsStart ch := by
  refine ⟨?_, ?_, ?_⟩
  · cases blank : isJsonBlank ch with
    | false => rfl
    | true =>
      simp only [isJsonBlank, Bool.or_eq_true, beq_iff_eq] at blank
      rcases blank with ((rfl | rfl) | rfl) | rfl <;> exact absurd digit (by decide)
  all_goals
    rintro rfl
    exact absurd digit (by decide)

private theorem toDigits_start (m : Nat) :
    ∃ ch more, Nat.toDigits 10 m = ch :: more ∧ ch.isDigit = true := by
  obtain ⟨ch, more, same⟩ := List.exists_cons_of_ne_nil (Nat.toDigits_ne_nil (n := m) (b := 10))
  refine ⟨ch, more, same, Nat.isDigit_of_mem_toDigits (b := 10) (n := m) (by decide) (by decide) ?_⟩
  rw [same]
  exact List.mem_cons_self

/-- A whole number is written by its digits, and behind a minus if it is negative. -/
private theorem toList_whole (w : Whole) : ∃ m : Nat,
    (w.value = m ∧ (toString w.value).toList = Nat.toDigits 10 m) ∨
      (w.value = -(m : Int) ∧ m ≠ 0 ∧ (toString w.value).toList = '-' :: Nat.toDigits 10 m) := by
  rw [Int.toString_eq_repr, Int.repr_eq_if]
  split
  · rename_i pos
    exact ⟨w.value.toNat, .inl ⟨(Int.toNat_of_nonneg pos).symm, Nat.toList_repr⟩⟩
  · rename_i neg
    refine ⟨(-w.value).toNat, .inr ⟨by omega, by omega, ?_⟩⟩
    rw [String.toList_append, Nat.toList_repr]
    rfl

theorem isStarted (h : Nested n v) : IsStarted v.write.toList := by
  cases h with
  | null => exact ⟨'n', _, rfl, by decide⟩
  | bool n b =>
    cases b with
    | true => exact ⟨'t', _, rfl, by decide⟩
    | false => exact ⟨'f', _, rfl, by decide⟩
  | whole n w =>
    obtain ⟨m, ⟨-, text⟩ | ⟨-, -, text⟩⟩ := toList_whole w
    · obtain ⟨ch, more, same, digit⟩ := toDigits_start m
      exact ⟨ch, more, text.trans same, isStart_of_isDigit digit⟩
    · exact ⟨'-', _, text, by decide⟩
  | string n s => exact ⟨'\x22', _, toList_writeString s, by decide⟩
  | array each => exact ⟨'[', _, toList_array _, by decide⟩
  | object each => exact ⟨'\x7b', _, toList_object _, by decide⟩

section Loops

theorem gives_hasElement (first : Bool) (start : IsStart ch)
    (h : c.rest = (if first then [] else [',']) ++ ch :: text) :
    Gives (hasElement first) c true (ch :: text) := by
  obtain ⟨plain, comma, close⟩ := start
  cases first with
  | true =>
    refine Gives.token h plain fun d left _ => ?_
    split
    · rename_i none
      cases none
    · rename_i found
      exact absurd (Option.some.inj found) close
    · exact left ▸ .pure true d
    · exact left ▸ .pure true d
  | false =>
    refine Gives.token h (by decide) fun d left _ => ?_
    refine Gives.skip left fun d left _ => Gives.token left plain fun d left _ => ?_
    split
    · rename_i found
      exact absurd (Option.some.inj found) close
    · exact left ▸ .pure true d
    · rename_i none
      cases none

theorem gives_elementsFrom {r : Reader Value} (items : List Value) {index fuel : Nat}
    (enough : items.length ≤ fuel) (starts : ∀ v ∈ items, IsStarted v.write.toList)
    (each : ∀ v ∈ items, ∀ (d : Cursor) rest, d.depth = n → IsBehind rest →
      d.rest = v.write.toList ++ rest → Gives r d v rest)
    (depth : c.depth = n) (h : c.rest = joined (index == 0) Value.write items ++ ']' :: rest) :
    Gives (elementsFrom r index (fuel + 1)) c items (']' :: rest) := by
  induction items generalizing c index fuel with
  | nil =>
    have ended : Gives (hasElement (index == 0)) c false (']' :: rest) :=
      Gives.token h (by decide) fun d left _ => left ▸ .pure false d
    have none : Gives (element? index r) c none (']' :: rest) :=
      ended.bind fun d left _ => left ▸ .pure none d
    exact none.bind fun d left _ => left ▸ .pure [] d
  | cons v more ih =>
    obtain ⟨fuel, rfl⟩ := Nat.exists_eq_succ_of_ne_zero (Nat.ne_of_gt (Nat.zero_lt_of_lt enough))
    obtain ⟨ch, text, same, start⟩ := starts v List.mem_cons_self
    rw [joined, List.append_assoc, List.append_assoc] at h
    have found : Gives (hasElement (index == 0)) c true
        (v.write.toList ++ (joined false Value.write more ++ ']' :: rest)) := by
      rw [same, List.cons_append] at h ⊢
      exact gives_hasElement _ start h
    have element : Gives (element? index r) c (some v) (joined false Value.write more ++ ']' :: rest) := by
      refine found.bind fun d left depth' => ?_
      refine Gives.map some (Gives.within (.index index) ?_)
      exact each v List.mem_cons_self d _ (depth'.trans depth) (isBehind_joined _ _ (by decide) rest) left
    refine element.bind fun d left depth' => Gives.map (v :: ·) ?_
    exact ih (Nat.le_of_succ_le_succ enough) (fun w hw => starts w (List.mem_cons_of_mem _ hw))
      (fun w hw => each w (List.mem_cons_of_mem _ hw)) (depth'.trans depth) left

theorem gives_hasEntry (first : Bool) (h : c.rest = (if first then [] else [',']) ++ '\x22' :: text) :
    Gives (hasEntry first) c true ('\x22' :: text) := by
  cases first with
  | true => exact Gives.token h (by decide) fun d left _ => left ▸ .pure true d
  | false =>
    refine Gives.token h (by decide) fun d left _ => Gives.skip left fun d left _ => ?_
    exact Gives.token left (by decide) fun d left _ => left ▸ .pure true d

theorem gives_entryValue {β : Type} {r : Reader β} {b : β} (key : String) (h : c.rest = ':' :: text)
    (value : ∀ d : Cursor, d.rest = text → d.depth = c.depth → Gives r d b rest) :
    Gives (entryValue key r) c b rest := by
  have colon : Gives colon c () text := Gives.token h (by decide) fun d left _ => gives_skip left
  exact colon.bind fun d left depth => (value d left depth).within (.key key)

/-- Entries are put in front of those that were read before, so they come out in reverse. -/
theorem gives_entriesFrom {r : String → List (String × Value) → Reader (List (String × Value))}
    {f : Value → Value} (es taken : List (String × Value)) {first : Bool} {fuel : Nat}
    (enough : es.length ≤ fuel)
    (each : ∀ e ∈ es, ∀ (d : Cursor) taken rest, d.depth = n → IsBehind rest →
      d.rest = ':' :: (e.2.write.toList ++ rest) → Gives (r e.1 taken) d ((e.1, f e.2) :: taken) rest)
    (depth : c.depth = n) (h : c.rest = joined first Value.writeEntry es ++ '\x7d' :: rest) :
    Gives (entriesFrom r taken first (fuel + 1)) c ((es.map fun e => (e.1, f e.2)).reverse ++ taken)
      ('\x7d' :: rest) := by
  induction es generalizing c taken first fuel with
  | nil =>
    have ended : Gives (hasEntry first) c false ('\x7d' :: rest) :=
      Gives.token h (by decide) fun d left _ => left ▸ .pure false d
    have key : Gives (key? first) c none ('\x7d' :: rest) :=
      Gives.within .unknown (ended.bind fun d left _ => left ▸ .pure none d)
    exact key.bind fun d left _ => left ▸ .pure taken d
  | cons e more ih =>
    obtain ⟨fuel, rfl⟩ := Nat.exists_eq_succ_of_ne_zero (Nat.ne_of_gt (Nat.zero_lt_of_lt enough))
    obtain ⟨k, v⟩ := e
    rw [joined, toList_writeEntry] at h
    have key : Gives (key? first) c (some k)
        (':' :: (v.write.toList ++ (joined false Value.writeEntry more ++ '\x7d' :: rest))) := by
      refine Gives.within .unknown ((gives_hasEntry first (by simpa using h)).bind fun d left _ => ?_)
      refine Gives.skip left fun d left _ => Gives.map some (gives_stringRest k ?_)
      simpa using left
    refine key.bind fun d left depth' => ?_
    refine (each (k, v) List.mem_cons_self d taken _ (depth'.trans depth)
      (isBehind_joined _ _ (by decide) rest) left).bind fun e left depth'' => ?_
    have later := ih ((k, f v) :: taken) (Nat.le_of_succ_le_succ enough)
      (fun w hw => each w (List.mem_cons_of_mem _ hw)) (depth''.trans (depth'.trans depth)) left
    simpa using later

theorem gives_listEnd (h : c.rest = ']' :: rest) : Gives listEnd c () rest :=
  Gives.token h (by decide) fun _ left _ => gives_skip left

theorem gives_objectEnd (h : c.rest = '\x7d' :: rest) : Gives objectEnd c () rest :=
  Gives.token h (by decide) fun _ left _ => gives_skip left

theorem gives_elements {r : Reader Value} (items : List Value)
    (starts : ∀ v ∈ items, IsStarted v.write.toList)
    (each : ∀ v ∈ items, ∀ (d : Cursor) rest, d.depth = c.depth → IsBehind rest →
      d.rest = v.write.toList ++ rest → Gives r d v rest)
    (h : c.rest = joined true Value.write items ++ ([']'] ++ rest)) :
    Gives (elements r) c items (']' :: rest) := by
  have long : items.length ≤ (joined true Value.write items).length :=
    length_le_joined true Value.write items fun v hv none => by
      obtain ⟨ch, text, same, -⟩ := starts v hv
      cases same.symm.trans none
  have enough : items.length ≤ c.rest.length := by
    rw [h, List.length_append]
    omega
  exact (gives_remaining c).bind fun d left depth =>
    gives_elementsFrom items enough starts each depth (left.trans h)

theorem gives_entries {r : String → List (String × Value) → Reader (List (String × Value))}
    {f : Value → Value} (es : List (String × Value))
    (each : ∀ e ∈ es, ∀ (d : Cursor) taken rest, d.depth = c.depth → IsBehind rest →
      d.rest = ':' :: (e.2.write.toList ++ rest) → Gives (r e.1 taken) d ((e.1, f e.2) :: taken) rest)
    (h : c.rest = joined true Value.writeEntry es ++ (['\x7d'] ++ rest)) :
    Gives (entries r []) c (es.map fun e => (e.1, f e.2)).reverse ('\x7d' :: rest) := by
  have long : es.length ≤ (joined true Value.writeEntry es).length :=
    length_le_joined true Value.writeEntry es fun e he none => by
      rw [toList_writeEntry] at none
      cases none
  have enough : es.length ≤ c.rest.length := by
    rw [h, List.length_append]
    omega
  refine (gives_remaining c).bind fun d left depth => ?_
  have read := gives_entriesFrom es [] enough each depth (left.trans h)
  rwa [List.append_nil] at read

end Loops

/-- Levels left for the value are enough: reading stops behind the value. -/
theorem gives_writtenFrom (h : Nested n v) {c : Cursor} {fuel : Nat} {rest : List Char} (levels : n ≤ fuel)
    (room : n < c.depth) (behind : IsBehind rest) (front : c.rest = v.write.toList ++ rest) :
    Gives (writtenFrom (fuel + 1)) c v rest := by
  induction h generalizing c fuel rest with
  | null n =>
    refine Gives.valueStart front (by decide) fun d left _ => Gives.skip left fun d left _ => ?_
    exact (gives_word _ left).bind fun d left _ => left ▸ .pure _ d
  | bool n b =>
    cases b with
    | true =>
      have front : c.rest = 't' :: (['r', 'u', 'e'] ++ rest) := front
      refine Gives.valueStart front (by decide) fun d left _ => Gives.skip left fun d left _ => ?_
      exact (gives_word _ left).bind fun d left _ => left ▸ .pure _ d
    | false =>
      have front : c.rest = 'f' :: (['a', 'l', 's', 'e'] ++ rest) := front
      refine Gives.valueStart front (by decide) fun d left _ => Gives.skip left fun d left _ => ?_
      exact (gives_word _ left).bind fun d left _ => left ▸ .pure _ d
  | whole n w =>
    rw [Value.write, Number.write] at front
    obtain ⟨m, ⟨value, text⟩ | ⟨value, nonzero, text⟩⟩ := toList_whole w
    · obtain ⟨ch, more, same, digit⟩ := toDigits_start m
      rw [text, same, List.cons_append] at front
      refine Gives.valueStart front (isStart_of_isDigit digit).1 fun d left _ => ?_
      have read : Gives (Value.number <$> number false) d (.number (.whole w)) rest := by
        refine Gives.map Value.number (gives_number (n := m) value nofun behind ?_)
        rw [left, same, List.cons_append]
      split
      case h_8 => rwa [if_pos digit]
      all_goals exact absurd digit (by decide)
    · rw [text] at front
      refine Gives.valueStart front (by decide) fun d left _ => Gives.skip left fun d left _ => ?_
      exact Gives.map Value.number (gives_number (n := m) value (fun _ => nonzero) behind left)
  | string n s =>
    rw [Value.write, toList_writeString] at front
    refine Gives.valueStart front (by decide) fun d left _ => Gives.skip left fun d left _ => ?_
    exact Gives.map Value.string (gives_stringRest s (by simpa using left))
  -- the members of a list or an object are read one level further in, with one level less to go
  | @array n items each ih =>
    obtain ⟨fuel, rfl⟩ := Nat.exists_eq_succ_of_ne_zero (Nat.ne_of_gt (Nat.zero_lt_of_lt levels))
    rw [toList_array, List.cons_append, List.append_assoc] at front
    refine Gives.valueStart front (by decide) fun d left _ => ?_
    refine Gives.bracketed left (by omega) (fun d left _ => Gives.map Value.array ?_) fun d => gives_listEnd
    exact gives_elements items (fun v hv => isStarted (each v hv))
      (fun v hv d rest _ behind front => ih v hv (by omega) (by omega) behind front) left
  | @object n es each ih =>
    obtain ⟨fuel, rfl⟩ := Nat.exists_eq_succ_of_ne_zero (Nat.ne_of_gt (Nat.zero_lt_of_lt levels))
    rw [toList_object, List.cons_append, List.append_assoc] at front
    refine Gives.valueStart front (by decide) fun d left _ => ?_
    refine Gives.bracketed left (by omega) (fun d left _ => ?_) fun d => gives_objectEnd
    have read : Gives (entries (fun key taken => do
        let v ← entryValue key (writtenFrom (fuel + 1))
        pure ((key, v) :: taken)) []) d (es.map fun e => (e.1, e.2)).reverse ('\x7d' :: rest) := by
      refine gives_entries (f := fun v => v) es (fun e he d taken rest _ behind front => ?_) left
      have value : Gives (entryValue e.1 (writtenFrom (fuel + 1))) d e.2 rest :=
        gives_entryValue e.1 front fun d left _ => ih e he (by omega) (by omega) behind left
      exact value.bind fun d left _ => left ▸ .pure _ d
    refine read.bind fun d left _ => ?_
    rw [List.reverse_reverse, List.map_id']
    exact left ▸ .pure _ d

theorem gives_value (h : Nested n v) {c : Cursor} {rest : List Char} (room : n < c.depth)
    (behind : IsBehind rest) (front : c.rest = v.write.toList ++ rest) : Gives value c v.distinct rest := by
  have read : Gives written c v rest := by
    change Gives (writtenFrom c.depth) c v rest
    obtain ⟨fuel, same⟩ := Nat.exists_eq_succ_of_ne_zero (Nat.ne_of_gt (Nat.zero_lt_of_lt room))
    rw [same] at room ⊢
    exact gives_writtenFrom h (Nat.le_of_lt_succ room) (same ▸ room) behind front
  exact read.map Value.distinct

theorem gives_finished (h : c.rest = []) : Gives finished c () [] := by
  have ended : Gives token? c none [] := by
    have token := gives_token (c := c) (by rw [h]; rfl)
    rwa [h] at token
  exact ended.bind fun d left _ => left ▸ .pure () d

theorem run_eq {α : Type} {r : Reader α} {a : α} {text : String} (h : Gives r (.ofText text) a []) :
    run r text = .ok a := by
  have whole : Gives (do
      let a ← r
      finished
      pure a) (.ofText text) a [] :=
    h.bind fun d left _ => (gives_finished left).bind fun d left _ => left ▸ .pure a d
  obtain ⟨d, done, -⟩ := whole
  rw [run, runFront, done]

end Reader

end ScreenNavigation.Json
