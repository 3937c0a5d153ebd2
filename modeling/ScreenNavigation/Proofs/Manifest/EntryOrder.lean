import ScreenNavigation.Proofs.Manifest.CollectedEntries
import ScreenNavigation.Proofs.Manifest.Reachability

/-! How discovery depends on the order of entries. Other orders of the class entries change which of
several entries for one identity counts and nothing else, and of the field entries only those for one
screen have an order that matters. -/
namespace ScreenNavigation.Manifest

open Declaration

variable {check : SubtypeCheck} {base : TypePath} {classes classes' : List ClassEntry}
  {fields fields' : List FieldEntry} {d d' : Discovery}

/-- A manifest declares the same subtypes in every order of its class entries. -/
theorem declaredSubtypes_perm {m : Manifest} (h : classes.Perm m.classes) :
    declaredSubtypes { m with classes := classes } = declaredSubtypes m := by
  funext candidate base
  rw [Bool.eq_iff_iff, declaredSubtypes, declaredSubtypes, Supertypes.isSubtype_iff,
    Supertypes.isSubtype_iff, Declares.congr fun _ => h.mem_iff]

/-- What a screen gets depends on the entries that name it alone. -/
theorem fieldsFor_congr {screen : String} (same : fields'.filter (·.enclosingText == screen) =
    fields.filter (·.enclosingText == screen)) : fieldsFor screen fields' = fieldsFor screen fields := by
  rw [fieldsFor, fieldsFor, ← List.filter_filter, ← List.filter_filter, same]

namespace Collected

theorem flatMap_fields (h : Collected check base classes fields d) :
    d.screens.flatMap (·.fields) =
      (d.screens.map (·.identity.text)).flatMap (fieldsFor · fields) := by
  rw [List.flatMap_map]
  exact List.flatMap_congr fun s hs => h.fields_eq hs

section Classes

variable (h : Collected check base classes fields d) (h' : Collected check base classes' fields d')
  (moved : classes'.Perm classes)

include h h' moved

theorem identities_perm :
    (d'.screens.map (·.identity.text)).Perm (d.screens.map (·.identity.text)) := by
  rw [h.identities, h'.identities]
  exact map_firsts_perm (moved.filter _)

theorem ignored_eq : d'.ignored = d.ignored := by
  have same := identities_perm h h' moved
  have screens : d'.screens.length = d.screens.length := by
    simpa only [List.length_map] using same.length_eq
  have members : (d'.screens.flatMap (·.fields)).length = (d.screens.flatMap (·.fields)).length := by
    rw [h.flatMap_fields, h'.flatMap_fields]
    exact (same.flatMap_right _).length_eq
  have counted := h.counted
  have counted' := h'.counted
  have entries := moved.length_eq
  omega

theorem screens_perm (distinct : (classes.map (·.identity.text)).Nodup) :
    d'.screens.Perm d.screens := by
  have accepted (l : List ClassEntry) (all : (l.map (·.identity.text)).Nodup) :
      firsts (·.identity.text) (l.filter (·.isAccepted check base)) =
        l.filter (·.isAccepted check base) :=
    firsts_of_nodup (all.sublist (List.filter_sublist.map _))
  have distinct' : (classes'.map (·.identity.text)).Nodup :=
    (moved.map _).nodup_iff.mpr distinct
  rw [h.screens, h'.screens, accepted classes distinct, accepted classes' distinct']
  exact (moved.filter _).map _

end Classes

theorem eq_of_fields (h : Collected check base classes fields d)
    (h' : Collected check base classes fields' d') (moved : fields'.Perm fields)
    (same : ∀ screen, fields'.filter (·.enclosingText == screen) =
      fields.filter (·.enclosingText == screen)) : d' = d := by
  have screens : d'.screens = d.screens := by
    rw [h.screens, h'.screens]
    refine List.map_congr_left fun c _ => ?_
    exact screenWith_congr (fieldsFor_congr (same c.identity.text))
  have counted := h.counted
  have counted' := h'.counted
  have entries := moved.length_eq
  rw [screens] at counted'
  have ignored : d'.ignored = d.ignored := by omega
  obtain ⟨_, _⟩ := d'
  obtain ⟨_, _⟩ := d
  exact congr (congrArg Discovery.mk screens) ignored

end Collected

/-- The subtypes of the manifest accept the same class entries in another order. -/
theorem discover_perm_collected {m : Manifest} (moved : classes.Perm m.classes) :
    Collected (declaredSubtypes m) m.baseType classes m.fields
      (discover { m with classes := classes } (declaredSubtypes { m with classes := classes })) := by
  rw [declaredSubtypes_perm moved]
  exact discover_collected { m with classes := classes } (declaredSubtypes m)

/-- Another order of the class entries gives the same identities, with the same fields, and ignores as
many entries; where no identity is repeated it gives the same screens. Another order of the field entries
in which those of each screen follow each other as before gives the same discovery. -/
theorem discover_ignores_order (m : Manifest) :
    (∀ classes, classes.Perm m.classes →
      let d := discover m (declaredSubtypes m)
      let m' : Manifest := { m with classes := classes }
      let d' := discover m' (declaredSubtypes m')
      (d'.screens.map (·.identity.text)).Perm (d.screens.map (·.identity.text)) ∧
        (∀ s ∈ d.screens, ∀ s' ∈ d'.screens, s'.identity.text = s.identity.text →
          s'.fields = s.fields) ∧
        d'.ignored = d.ignored ∧
        ((m.classes.map (·.identity.text)).Nodup → d'.screens.Perm d.screens)) ∧
    ∀ fields, fields.Perm m.fields →
      (∀ screen, fields.filter (·.enclosingText == screen) =
        m.fields.filter (·.enclosingText == screen)) →
      let m' : Manifest := { m with fields := fields }
      discover m' (declaredSubtypes m') = discover m (declaredSubtypes m) := by
  have before := discover_collected m (declaredSubtypes m)
  refine ⟨?_, ?_⟩
  · intro classes moved d m' d'
    have after : Collected _ _ _ _ d' := discover_perm_collected moved
    refine ⟨before.identities_perm after moved, ?_, before.ignored_eq after moved,
      before.screens_perm after moved⟩
    intro s hs s' hs' same
    rw [before.fields_eq hs, after.fields_eq hs', same]
  · intro fields moved same
    exact before.eq_of_fields (discover_collected { m with fields := fields } _) moved same

/-- A screen behind its base, which is declared after it, with a field for each. -/
def layered : Manifest where
  baseType := defaultBaseType
  classes := [
    ⟨.of "crate::Detail" (.ofNames ["crate", "Detail"]), none, .type, false,
      [.of "crate::Base" (.ofNames ["crate", "Base"])]⟩,
    ⟨.of "crate::Base" (.ofNames ["crate", "Base"]), none, .type, true, [defaultBaseType]⟩]
  fields := [
    ⟨"crate::Detail", .field, "id", .string, false, none⟩,
    ⟨" crate::Base", .field, "user", .string, false, none⟩]

theorem discover_ignores_order_layered :
    let classes := layered.classes.reverse
    let reordered : Manifest := { layered with classes := classes }
    let fields := layered.fields.reverse
    let interleaved : Manifest := { layered with fields := fields }
    classes.Perm layered.classes ∧ (layered.classes.map (·.identity.text)).Nodup ∧
      (discover reordered (declaredSubtypes reordered)).screens.Perm
        (discover layered (declaredSubtypes layered)).screens ∧
      fields.Perm layered.fields ∧
      (∀ screen, fields.filter (·.enclosingText == screen) =
        layered.fields.filter (·.enclosingText == screen)) ∧
      discover interleaved (declaredSubtypes interleaved) =
        discover layered (declaredSubtypes layered) := by
  have moved : layered.classes.reverse.Perm layered.classes := List.reverse_perm _
  have distinct : (layered.classes.map (·.identity.text)).Nodup := by decide
  have fields : layered.fields.reverse.Perm layered.fields := List.reverse_perm _
  have detail : FieldEntry.enclosingText ⟨"crate::Detail", .field, "id", .string, false, none⟩ =
      "crate::Detail" := by decide
  have apart : ∀ screen, layered.fields.reverse.filter (·.enclosingText == screen) =
      layered.fields.filter (·.enclosingText == screen) := by
    intro screen
    by_cases own : "crate::Detail" = screen
    · subst own
      rfl
    · simp [layered, List.filter_cons, detail, own]
  obtain ⟨ofClasses, ofFields⟩ := discover_ignores_order layered
  obtain ⟨_, _, _, screens⟩ := ofClasses _ moved
  exact ⟨moved, distinct, screens distinct, fields, apart, ofFields _ fields apart⟩

end ScreenNavigation.Manifest
