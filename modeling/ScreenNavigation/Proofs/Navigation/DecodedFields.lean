import ScreenNavigation.Proofs.Extras.Decoding
import ScreenNavigation.Proofs.Extras.Entries
import ScreenNavigation.Proofs.Navigation.Deliveries

/-! The fields of a detail screen, each of which is decoded from its own entry. An entry that cannot be
decoded counts as a missing one, and no entry has a say in another field. -/
namespace ScreenNavigation.Navigation

open Extras (Shape)

inductive DetailField where
  | id
  | tag
  | page
  | score
  | labels
  | owner
  | count
  deriving DecidableEq, Repr

namespace DetailField

def key : DetailField → String
  | id => "id"
  | tag => "tag"
  | page => "page"
  | score => "score"
  | labels => "labels"
  | owner => "owner"
  | count => "count"

def shape : DetailField → Shape
  | id => .integer .i32
  | tag => .text
  | page => .integer .u32
  | score => .double
  | labels => .list .text
  | owner => .owner
  | count => .integer .i32

/-- What a screen has in the field; only a tag, labels and an owner can be absent. -/
def value (v : DetailValues) : (f : DetailField) → Option f.shape.Carrier
  | id => some v.id
  | tag => v.tag
  | page => some v.page
  | score => some v.score
  | labels => v.labels
  | owner => v.owner
  | count => some v.count

/-- What a screen gets that finds nothing for the field. -/
def default : (f : DetailField) → Option f.shape.Carrier
  | id => Extras.Integer.ofInt? .i32 0
  | tag => some "none"
  | page => Extras.Integer.ofInt? .u32 1
  | score => some (.finite Decimal.Double.zero)
  | labels => none
  | owner => none
  | count => Extras.Integer.ofInt? .i32 0

/-- Nothing can be decoded for the field: its entry is missing, null or of another shape. -/
def IsLost (e : Extras) (f : DetailField) : Prop :=
  e.find? f.key = none ∨ e.find? f.key = some .null ∨
    ∃ w fault, e.find? f.key = some w ∧ f.shape.decode w = .error fault

variable {f g : DetailField} {v v' : DetailValues} {e e' : Extras}

theorem key_ne (apart : g ≠ f) : g.key ≠ f.key := by
  cases f <;> cases g <;> first | exact absurd rfl apart | decide

/-- The fields are all there is to a screen's values. -/
theorem values_ext (same : ∀ f, value v f = value v' f) : v = v' := by
  have id := Option.some.inj (same .id)
  have page := Option.some.inj (same .page)
  have score := Option.some.inj (same .score)
  have count := Option.some.inj (same .count)
  obtain ⟨_, _, _, _, _, _, _⟩ := v
  obtain ⟨_, _, _, _, _, _, _⟩ := v'
  simp only [DetailValues.mk.injEq]
  exact ⟨id, same .tag, page, score, same .labels, same .owner, count⟩

theorem value_read (e : Extras) (f : DetailField) :
    value (DetailValues.read e) f = (e.get? f.shape f.key <|> f.default) := by
  have kept {s : Shape} (found : Option s.Carrier) (d : s.Carrier) :
      some (found.getD d) = (found <|> some d) := by
    cases found <;> rfl
  have left {s : Shape} (found : Option s.Carrier) : found = (found <|> none) := by
    cases found <;> rfl
  cases f with
  | id => exact kept _ _
  | tag => rfl
  | page => exact kept _ _
  | score => exact kept _ _
  | labels => exact left _
  | owner => exact left _
  | count => exact kept _ _

/-- A field is decoded from its own entry alone. -/
theorem value_read_congr (same : e.find? f.key = e'.find? f.key) :
    value (.read e) f = value (.read e') f := by
  rw [value_read, value_read, Extras.get?_congr same]

theorem value_read_of_lost (lost : IsLost e f) : value (.read e) f = f.default := by
  rw [value_read, Extras.get?_eq_none_iff.mpr lost]
  rfl

theorem value_read_of_decoded {w : Json.Value} {a : f.shape.Carrier}
    (found : e.find? f.key = some w) (present : w ≠ .null) (decoded : f.shape.decode w = .ok a) :
    value (.read e) f = some a := by
  rw [value_read, Extras.get?_of_decoded found present decoded]
  rfl

/-- An entry without a value for its field might as well be missing. -/
theorem read_remove_of_lost (lost : IsLost e f) :
    DetailValues.read (e.remove f.key).1 = .read e := by
  refine values_ext fun g => ?_
  by_cases own : g = f
  · subst own
    rw [value_read_of_lost lost, value_read_of_lost (.inl (Extras.find?_remove_self e _))]
  · exact value_read_congr (Extras.find?_remove_of_ne e (key_ne own))

end DetailField

open DetailField

/-- Decoding keeps the fields of a detail screen apart. What a screen gets in a field depends on the entry
of the field alone: it is the decoded entry, or the default where nothing can be decoded, and then
everything else is as if the entry were missing. Nothing but the values of a detail screen ever changes. -/
theorem decoding_isolates_fields :
    (∀ (a : Detail) (state : Option Extras), ∃ a',
      (Instance.detail a).injectDetail state = .detail a' ∧ a'.payload = a.payload ∧
        a'.journal = a.journal) ∧
    (∀ (a b a' b' : Detail) (e e' : Extras) (f : DetailField),
      (Instance.detail a).injectDetail (some e) = .detail a' →
      (Instance.detail b).injectDetail (some e') = .detail b' →
      e.find? f.key = e'.find? f.key → value a'.values f = value b'.values f) ∧
    (∀ (a a' : Detail) (e : Extras) (f : DetailField),
      (Instance.detail a).injectDetail (some e) = .detail a' →
      (∀ w v, e.find? f.key = some w → w ≠ .null → f.shape.decode w = .ok v →
        value a'.values f = some v) ∧
      (IsLost e f → value a'.values f = f.default ∧
        (Instance.detail a).injectDetail (some (e.remove f.key).1) = .detail a')) ∧
    (∀ i : Instance, i.injectDetail none = i) ∧
    ∀ (c : Counter) (state : Option Extras), (Instance.counter c).injectDetail state = .counter c := by
  refine ⟨fun a state => ?_, ?_, ?_, fun i => by cases i <;> rfl, fun _ _ => rfl⟩
  · exact ⟨_, rfl, a.payload_inject _ state, a.journal_inject _ state⟩
  · rintro a b _ _ e e' f ⟨⟩ ⟨⟩ same
    exact value_read_congr same
  · rintro a _ e f ⟨⟩
    refine ⟨fun w v found present decoded => value_read_of_decoded found present decoded,
      fun lost => ⟨value_read_of_lost lost, ?_⟩⟩
    exact congrArg (fun values => Instance.detail { a with values := values })
      (read_remove_of_lost lost)

example : DetailValues.read ⟨[("page", .string "x"), ("tag", .string "t"), ("labels", .null)],
      by decide⟩ =
    { DetailValues.read .empty with tag := some "t" } := by decide

end ScreenNavigation.Navigation
