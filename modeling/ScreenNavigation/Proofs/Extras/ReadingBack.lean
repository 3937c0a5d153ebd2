import Mathlib.Data.String.Basic
import ScreenNavigation.Proofs.Decimal.Widening
import ScreenNavigation.Proofs.Extras.Storage

/-! What is stored is read back. Null is an absent option inside a value and a missing value at the top,
which no other value of a type becomes. -/
namespace ScreenNavigation.Extras

open Decimal Json

namespace Shape

def isOption : Shape → Bool
  | option _ => true
  | _ => false

/-- JSON keeps the values of the shape apart: no option stands directly in another. -/
def IsFaithful : Shape → Prop
  | list s => s.IsFaithful
  | option s => s.isOption = false ∧ s.IsFaithful
  | pair s t => s.IsFaithful ∧ t.IsFaithful
  | map s => s.IsFaithful
  | any => False
  | _ => True

/-- The floating-point numbers in the value are finite, and its maps have distinct keys in order. -/
def IsProper : (s : Shape) → s.Carrier → Prop
  | single, x => ∃ y, x = .finite y
  | double, x => ∃ y, x = .finite y
  | list s, vs => ∀ v ∈ vs, s.IsProper v
  | option s, v => ∀ a ∈ v, s.IsProper a
  | pair s t, (v, w) => s.IsProper v ∧ t.IsProper w
  | map s, entries => entries.Pairwise (·.1 < ·.1) ∧ ∀ entry ∈ entries, s.IsProper entry.2
  | _, _ => True

/-- The value is an option without content. -/
def IsAbsent : (s : Shape) → s.Carrier → Prop
  | option _, none => True
  | _, _ => False

variable {s t : Shape}

theorem not_isAbsent (h : s.isOption = false) (v : s.Carrier) : ¬ s.IsAbsent v := by
  cases s with
  | option s => cases h
  | _ => exact id

theorem storable_bool (b : Bool) : bool.Storable b := ⟨.bool b, ⟨rfl, rfl, rfl⟩, nofun⟩

theorem storable_char (c : Char) : char.Storable c := by
  refine ⟨.string c.toString, ⟨rfl, rfl, ?_⟩, nofun⟩
  have one : c.toString.toList = [c] := String.toList_singleton c
  simp only [decode, charOf, one]
  rfl

/-- A number of single precision is stored as the double that it is. -/
theorem storable_single (x : Single) : single.Storable (.finite x) := by
  obtain ⟨y, wide, narrow⟩ := x.exists_double
  refine ⟨.number (.real y), ⟨rfl, ?_, ?_⟩, nofun⟩
  · rw [encodable, Encodable.toJson, Extended.convert, wide]
    rfl
  · rw [decode, singleOf, narrow]

theorem encodes_absent : (option s).Encodes none .null := ⟨rfl, rfl, rfl⟩

theorem storable_present {v : s.Carrier} (h : s.Storable v) : (option s).Storable (some v) := by
  obtain ⟨w, ⟨sound, json, decoded⟩, not_null⟩ := h
  refine ⟨w, ⟨sound, json, ?_⟩, not_null⟩
  cases w with
  | null => exact absurd rfl not_null
  | bool | number | string | array | object =>
    rw [decode, decoded]
    · rfl
    · exact not_null

theorem storable_pair {v : s.Carrier} {u : t.Carrier} (first : ∃ w, s.Encodes v w)
    (second : ∃ w, t.Encodes u w) : (pair s t).Storable (v, u) := by
  obtain ⟨w, sound, json, decoded⟩ := first
  obtain ⟨w', sound', json', decoded'⟩ := second
  refine ⟨.array [w, w'], ⟨?_, ?_, ?_⟩, nofun⟩
  · rw [encodable, Encodable.fault?, Encodable.itemsFault?, Encodable.itemsFault?, sound, sound']
    rfl
  · rw [encodable, Encodable.toJson, Encodable.itemsToJson, Encodable.itemsToJson, json, json']
    rfl
  · exact decode_pair decoded decoded'

section Maps

private theorem insertSorted_of_lt {α : Type} {key : String} {found : List (String × α)}
    (h : ∀ entry ∈ found, entry.1 < key) (a : α) :
    insertSorted key a found = found ++ [(key, a)] := by
  induction found with
  | nil => rfl
  | cons first rest ih =>
    have before : first.1 < key := h first List.mem_cons_self
    rw [insertSorted, if_neg before.ne', if_neg before.asymm,
      ih fun entry he => h entry (List.mem_cons_of_mem _ he), List.cons_append]

private theorem behind_old {α β : Type} {key : String} {v : α} {rest : List (String × α)}
    {olds : List (String × β)} (least : ∀ entry ∈ rest, key < entry.1)
    (old : ∀ before ∈ olds, ∀ entry ∈ (key, v) :: rest, before.1 < entry.1) :
    (∀ before ∈ olds, before.1 < key) ∧
      ∀ b : β, ∀ before ∈ olds ++ [(key, b)], ∀ entry ∈ rest, before.1 < entry.1 := by
  refine ⟨fun before hb => old before hb _ List.mem_cons_self, fun b before hb entry he => ?_⟩
  rcases List.mem_append.mp hb with known | new
  · exact old before known entry (List.mem_cons_of_mem _ he)
  · rw [List.mem_singleton.mp new]
    exact least entry he

/-- How an entry of a map presents itself. -/
private def entryEncodable (entry : String × s.Carrier) : Encodable × Encodable :=
  (.text entry.1, s.encodable entry.2)

-- Keys come in order, so both sides put every entry behind those that are there already.
private theorem entries_encoded {entries : List (String × s.Carrier)}
    (sorted : entries.Pairwise (·.1 < ·.1)) (h : ∀ entry ∈ entries, ∃ w, s.Encodes entry.2 w) :
    ∃ ws : List (String × Value),
      Encodable.entriesFault? (entries.map entryEncodable) = none ∧
      (∀ written : List (String × Value), (∀ old ∈ written, ∀ entry ∈ entries, old.1 < entry.1) →
        Encodable.entriesToJson written (entries.map entryEncodable) = .ok (written ++ ws)) ∧
      ∀ found : List (String × s.Carrier), (∀ old ∈ found, ∀ entry ∈ entries, old.1 < entry.1) →
        decodeEntries s.decode found ws = .ok (found ++ entries) := by
  induction entries with
  | nil =>
    refine ⟨[], rfl, fun written _ => ?_, fun found _ => ?_⟩
    · rw [List.append_nil]
      rfl
    · rw [List.append_nil]
      rfl
  | cons first rest ih =>
    obtain ⟨key, v⟩ := first
    obtain ⟨least, sorted⟩ := List.pairwise_cons.mp sorted
    obtain ⟨w, sound, json, decoded⟩ := h _ List.mem_cons_self
    obtain ⟨ws, sounds, jsons, decodeds⟩ :=
      ih sorted fun entry he => h entry (List.mem_cons_of_mem _ he)
    refine ⟨(key, w) :: ws, ?_, fun written old => ?_, fun found old => ?_⟩
    · change ((none : Option Cause) <|> (s.encodable v).fault? <|> _) = none
      rw [sound, sounds]
      rfl
    · obtain ⟨below, later⟩ := behind_old least old
      have missing : key ∉ written.map (·.1) := fun known => by
        obtain ⟨entry, he, same⟩ := List.mem_map.mp known
        exact (below entry he).ne same
      change ((s.encodable v).toJson >>= fun w => Encodable.entriesToJson (insertEntry key w written)
        (rest.map entryEncodable)) = _
      rw [json]
      change Encodable.entriesToJson (insertEntry key w written) (rest.map entryEncodable) = _
      rw [insertEntry_of_notMem missing, jsons _ (later w), List.append_assoc, List.singleton_append]
    · obtain ⟨below, later⟩ := behind_old least old
      rw [decodeEntries, decoded]
      change decodeEntries s.decode (insertSorted key v found) ws = _
      rw [insertSorted_of_lt below, decodeds _ (later v), List.append_assoc, List.singleton_append]

theorem storable_map {entries : List (String × s.Carrier)} (sorted : entries.Pairwise (·.1 < ·.1))
    (h : ∀ entry ∈ entries, ∃ w, s.Encodes entry.2 w) : (map s).Storable entries := by
  obtain ⟨ws, sound, json, decoded⟩ := entries_encoded sorted h
  refine ⟨.object ws, ⟨sound, ?_, decoded [] nofun⟩, nofun⟩
  change Value.object <$> Encodable.entriesToJson [] (entries.map entryEncodable) = _
  rw [json [] nofun]
  rfl

end Maps

/-- Every proper value of a faithful shape has JSON of its own, which is null only for an absent option. -/
theorem encodes (faithful : s.IsFaithful) {v : s.Carrier} (proper : s.IsProper v) :
    ∃ w, s.Encodes v w ∧ (w = .null ↔ s.IsAbsent v) := by
  have ofStorable {s : Shape} {v : s.Carrier} (h : s.Storable v) (present : ¬ s.IsAbsent v) :
      ∃ w, s.Encodes v w ∧ (w = .null ↔ s.IsAbsent v) :=
    h.imp fun _ stores => ⟨stores.toEncodes, iff_of_false stores.not_null present⟩
  induction s with
  | bool => exact ofStorable (storable_bool v) id
  | integer k => exact ofStorable (storable_integer v) id
  | single =>
    obtain ⟨x, rfl⟩ := proper
    exact ofStorable (storable_single x) id
  | double =>
    obtain ⟨x, rfl⟩ := proper
    exact ofStorable (storable_double x) id
  | char => exact ofStorable (storable_char v) id
  | text => exact ofStorable (storable_text v) id
  | owner => exact ofStorable (storable_owner v) id
  | list s ih =>
    exact ofStorable (storable_list_of_encodes fun u hu =>
      (ih faithful (proper u hu)).imp fun _ h => h.1) id
  | option s ih =>
    cases v with
    | none => exact ⟨.null, encodes_absent, iff_of_true rfl trivial⟩
    | some a =>
      obtain ⟨w, encodes, null⟩ := ih faithful.2 (proper a rfl)
      have not_null : w ≠ .null := fun h => not_isAbsent faithful.1 a (null.mp h)
      exact ofStorable (storable_present ⟨w, encodes, not_null⟩) id
  | pair s t ihs iht =>
    obtain ⟨a, b⟩ := v
    exact ofStorable (storable_pair ((ihs faithful.1 proper.1).imp fun _ h => h.1)
      ((iht faithful.2 proper.2).imp fun _ h => h.1)) id
  | map s ih =>
    exact ofStorable (storable_map proper.1 fun entry he =>
      (ih faithful (proper.2 entry he)).imp fun _ h => h.1) id
  | any => exact absurd faithful id

end Shape

/-- A value that was stored is what its key reads as, and an absent option reads as a missing value. No
other key reads differently. -/
theorem tryGet_put {s : Shape} (faithful : s.IsFaithful) {v : s.Carrier} (proper : s.IsProper v)
    (e : Extras) (key : String) :
    ∃ e', e.put key (s.encodable v) = .ok e' ∧
      (¬ s.IsAbsent v → e'.tryGet s key = .ok (some v)) ∧
      (s.IsAbsent v → e'.find? key = some .null ∧ e'.tryGet s key = .ok none) ∧
      ∀ other, other ≠ key → ∀ t : Shape, e'.tryGet t other = e.tryGet t other := by
  obtain ⟨w, encodes, null⟩ := s.encodes faithful proper
  have found : (e.insert key w).find? key = some w := find?_insert_self e key w
  refine ⟨e.insert key w, put_encodes encodes e key, fun present => ?_, fun absent => ?_,
    fun other apart t => ?_⟩
  · exact tryGet_stored ⟨encodes, mt null.mp present⟩ found
  · rw [null.mpr absent] at found ⊢
    refine ⟨found, ?_⟩
    rw [tryGet, found]
  · rw [tryGet, tryGet, find?_insert_of_ne e apart]

/-- Readings of single precision under the names of their sensors; some are missing. -/
def readings : (Shape.map (.list (.option .single))).Carrier :=
  [("inside", [some (.finite ⟨true, 0x3dcccccd, by decide⟩), none]), ("outside", [])]

theorem tryGet_put_readings :
    (Shape.map (.list (.option .single))).IsFaithful ∧
      (Shape.map (.list (.option .single))).IsProper readings ∧
      ∃ e', Extras.empty.put "readings" (Shape.encodable _ readings) = .ok e' ∧
        e'.tryGet (.map (.list (.option .single))) "readings" = .ok (some readings) := by
  have faithful : (Shape.map (.list (.option .single))).IsFaithful := ⟨rfl, trivial⟩
  have proper : (Shape.map (.list (.option .single))).IsProper readings := by
    have ordered : readings.Pairwise (·.1 < ·.1) := by decide
    have finite : ∀ entry ∈ readings, (Shape.list (.option .single)).IsProper entry.2 := by
      simp [readings, Shape.IsProper]
    exact ⟨ordered, finite⟩
  obtain ⟨e', stored, present, _⟩ := tryGet_put faithful proper .empty "readings"
  exact ⟨faithful, proper, e', stored, present id⟩

end ScreenNavigation.Extras
