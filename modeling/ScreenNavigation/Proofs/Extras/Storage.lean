import ScreenNavigation.Proofs.Extras.Entries

/-! Values that come back from storage as they went in. Such a value encodes without fault to JSON other
than null, and its shape reads that JSON as the value. -/
namespace ScreenNavigation.Extras

open Decimal Json

/-- The value of the shape is encoded as the JSON value, which is read as nothing else. -/
structure Shape.Encodes (s : Shape) (v : s.Carrier) (w : Value) : Prop where
  sound : (s.encodable v).fault? = none
  json : (s.encodable v).toJson = .ok w
  decoded : s.decode w = .ok v

/-- The value is stored as the JSON value: extras would take null for a missing value. -/
structure Shape.Stores (s : Shape) (v : s.Carrier) (w : Value) : Prop extends s.Encodes v w where
  not_null : w ≠ .null

namespace Shape

/-- The value can be stored and read back. -/
def Storable (s : Shape) (v : s.Carrier) : Prop := ∃ w, s.Stores v w

theorem storable_text (t : String) : text.Storable t := ⟨.string t, ⟨rfl, rfl, rfl⟩, nofun⟩

theorem storable_double (x : Double) : double.Storable (.finite x) :=
  ⟨.number (.real x), ⟨rfl, rfl, rfl⟩, nofun⟩

theorem storable_owner (o : Owner) : owner.Storable o :=
  ⟨.object [("name", .string o.name), ("admin", .bool o.admin)], ⟨rfl, rfl, rfl⟩, nofun⟩

private theorem bounds_le (k : IntegerKind) :
    -0x8000000000000000 ≤ k.lower ∧ k.bound ≤ 0x10000000000000000 := by
  cases k <;> decide

/-- Integers of every kind fit into the integers that JSON values keep. -/
theorem storable_integer {k : IntegerKind} (n : Integer k) : (integer k).Storable n := by
  obtain ⟨low, high⟩ := bounds_le k
  have fits : -0x8000000000000000 ≤ n.value ∧ n.value < 0x10000000000000000 :=
    ⟨Int.le_trans low n.lower_le, Int.lt_of_lt_of_le n.lt_bound high⟩
  refine ⟨.number (.whole ⟨n.value, fits.1, fits.2⟩), ⟨rfl, ?_, ?_⟩, nofun⟩
  · rw [encodable, Encodable.toJson, Number.ofInt?, Whole.ofInt?, dif_pos fits]
    rfl
  · have kept : Integer.ofInt? k n.value = some n := by
      rw [Integer.ofInt?, dif_pos ⟨n.lower_le, n.lt_bound⟩]
    simp only [decode, integerOf, kept]
    rfl

section Lists

variable {s : Shape}

private theorem items_encoded {vs : List s.Carrier} (h : ∀ v ∈ vs, ∃ w, s.Encodes v w) :
    ∃ ws, Encodable.itemsFault? (vs.map s.encodable) = none ∧
      Encodable.itemsToJson (vs.map s.encodable) = .ok ws ∧
      ∀ index, decodeItems s.decode index ws = .ok vs := by
  induction vs with
  | nil => exact ⟨[], rfl, rfl, fun _ => rfl⟩
  | cons v rest ih =>
    obtain ⟨w, sound, json, decoded⟩ := h v List.mem_cons_self
    obtain ⟨ws, sounds, jsons, decodeds⟩ := ih fun u hu => h u (List.mem_cons_of_mem _ hu)
    refine ⟨w :: ws, ?_, ?_, fun index => ?_⟩
    · rw [List.map_cons, Encodable.itemsFault?, sound, sounds]
      rfl
    · rw [List.map_cons, Encodable.itemsToJson, json, jsons]
      rfl
    · rw [decodeItems, decoded, decodeds]
      rfl

/-- Items may be null inside a list, where they stand for absent options. -/
theorem storable_list_of_encodes {vs : List s.Carrier} (h : ∀ v ∈ vs, ∃ w, s.Encodes v w) :
    (list s).Storable vs := by
  obtain ⟨ws, sound, json, decoded⟩ := items_encoded h
  refine ⟨.array ws, ⟨sound, ?_, decoded 0⟩, nofun⟩
  rw [encodable, Encodable.toJson, json]
  rfl

theorem storable_list {vs : List s.Carrier} (h : ∀ v ∈ vs, s.Storable v) : (list s).Storable vs :=
  storable_list_of_encodes fun v hv => (h v hv).imp fun _ stores => stores.toEncodes

end Lists

end Shape

variable {s : Shape} {v : s.Carrier} {e : Extras} {key : String}

theorem encode_of_encodes {w : Value} (h : s.Encodes v w) : (s.encodable v).encode = .ok w := by
  rw [Encodable.encode, h.sound, h.json]

theorem put_encodes {w : Value} (h : s.Encodes v w) (e : Extras) (key : String) :
    e.put key (s.encodable v) = .ok (e.insert key w) := by
  rw [put, encode_of_encodes h]

theorem put_storable (h : s.Storable v) (e : Extras) (key : String) :
    ∃ w, s.Stores v w ∧ e.put key (s.encodable v) = .ok (e.insert key w) :=
  h.imp fun _ stores => ⟨stores, put_encodes stores.toEncodes e key⟩

theorem tryGet_stored {w : Value} (h : s.Stores v w) (found : e.find? key = some w) :
    e.tryGet s key = .ok (some v) :=
  tryGet_of_decoded found h.not_null h.decoded

theorem get?_stored {w : Value} (h : s.Stores v w) (found : e.find? key = some w) :
    e.get? s key = some v := by
  rw [get?, tryGet_stored h found]

end ScreenNavigation.Extras
