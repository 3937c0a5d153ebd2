import Mathlib.Data.List.Induction
import ScreenNavigation.Manifest.Discovery
import ScreenNavigation.Proofs.Manifest.FirstEntries

/-! What discovery makes of the entries of a manifest. Every entry becomes a screen, becomes a field of a
screen or is ignored, and of several entries for the same thing the first is kept. -/
namespace ScreenNavigation.Manifest

open Declaration

/-- The entry marks a type that the check accepts. -/
def ClassEntry.isAccepted (check : SubtypeCheck) (base : TypePath) (e : ClassEntry) : Bool :=
  e.element == .type && check e.identity base

/-- The entry marks a field and gives it a field name. -/
def FieldEntry.isAccepted (e : FieldEntry) : Bool := e.element == .field && isFieldName e.name

def FieldEntry.payloadKey (e : FieldEntry) : String := (fieldOf e).key

/-- The text of the enclosing type without blanks at its ends. -/
def FieldEntry.enclosingText (e : FieldEntry) : String :=
  String.ofList (Text.trimBlanks e.enclosing.toList)

/-- Whether or not it reads as a path, the enclosing type names the screen of its trimmed text. -/
theorem FieldEntry.screenName_eq (e : FieldEntry) : e.screenName = e.enclosingText := by
  rw [screenName]
  cases parsed : TypePath.parse e.enclosing with
  | ok identity => exact (TypePath.parseBy_ok parsed).2
  | error fault => rfl

/-- The fields that entries give a screen. -/
def fieldsFor (screen : String) (entries : List FieldEntry) : List Field :=
  (firsts FieldEntry.payloadKey
    (entries.filter fun e => e.isAccepted && e.enclosingText == screen)).map fieldOf

private theorem key_comp_fieldOf : (fun f : Field => f.key) ∘ fieldOf = FieldEntry.payloadKey := by
  funext e
  rw [Function.comp_apply, FieldEntry.payloadKey]

theorem map_key_fieldsFor (screen : String) (entries : List FieldEntry) :
    (fieldsFor screen entries).map (·.key) =
      (firsts FieldEntry.payloadKey
        (entries.filter fun e => e.isAccepted && e.enclosingText == screen)).map FieldEntry.payloadKey := by
  rw [fieldsFor, List.map_map, key_comp_fieldOf]

theorem nodup_keys_fieldsFor (screen : String) (entries : List FieldEntry) :
    ((fieldsFor screen entries).map (·.key)).Nodup := by
  rw [map_key_fieldsFor]
  exact nodup_map_firsts _ _

/-- The screen of a class entry with the fields that entries give it. -/
def screenWith (entries : List FieldEntry) (c : ClassEntry) : Screen :=
  { screenOf c with
    fields := fieldsFor c.identity.text entries
    distinct := nodup_keys_fieldsFor _ entries }

theorem screenWith_congr {entries entries' : List FieldEntry} {c : ClassEntry}
    (same : fieldsFor c.identity.text entries = fieldsFor c.identity.text entries') :
    screenWith entries c = screenWith entries' c := Screen.ext rfl rfl rfl same

/-- What is found once some entries were looked at. -/
structure Collected (check : SubtypeCheck) (base : TypePath) (classes : List ClassEntry)
    (fields : List FieldEntry) (d : Discovery) : Prop where
  screens : d.screens =
    (firsts (·.identity.text) (classes.filter (·.isAccepted check base))).map (screenWith fields)
  counted : d.screens.length + (d.screens.flatMap (·.fields)).length + d.ignored =
    classes.length + fields.length

variable {check : SubtypeCheck} {base : TypePath} {classes : List ClassEntry}
  {fields : List FieldEntry} {d : Discovery}

theorem Collected.identities (h : Collected check base classes fields d) :
    d.screens.map (·.identity.text) =
      (firsts (·.identity.text) (classes.filter (·.isAccepted check base))).map (·.identity.text) := by
  rw [h.screens, List.map_map]
  rfl

/-- The fields of a screen are those that the entries give its identity. -/
theorem Collected.fields_eq (h : Collected check base classes fields d) {s : Screen}
    (hs : s ∈ d.screens) : s.fields = fieldsFor s.identity.text fields := by
  rw [h.screens] at hs
  obtain ⟨c, _, rfl⟩ := List.mem_map.mp hs
  rfl

section Classes

private theorem any_identity (screens : List Screen) (t : TypePath) :
    screens.any (·.identity == t) = true ↔ t.text ∈ screens.map (·.identity.text) := by
  rw [List.any_eq_true, List.mem_map]
  exact exists_congr fun s => and_congr_right fun _ =>
    (beq_iff_eq : (s.identity.text == t.text) = true ↔ _)

theorem Collected.addClass (h : Collected check base classes [] d) (e : ClassEntry) :
    Collected check base (classes ++ [e]) [] (addClass check base d e) := by
  have new : (e.element == .type && check e.identity base && !d.screens.any (·.identity == e.identity)) =
      true ↔ e.isAccepted check base = true ∧
        e.identity.text ∉ (classes.filter (·.isAccepted check base)).map (·.identity.text) := by
    rw [Bool.and_eq_true, Bool.not_eq_true', ← Bool.not_eq_true, any_identity, h.identities,
      mem_map_firsts]
    rfl
  have counted := h.counted
  unfold Manifest.addClass
  by_cases kept : (e.element == .type && check e.identity base &&
      !d.screens.any (·.identity == e.identity)) = true
  · rw [if_pos kept]
    refine ⟨?_, ?_⟩
    · rw [firsts_filter_concat, if_pos (new.mp kept), List.map_append, ← h.screens]
      rfl
    · simp only [List.length_append, List.flatMap_append, List.length_singleton,
        List.flatMap_singleton, screenOf, List.length_nil] at counted ⊢
      omega
  · rw [if_neg kept]
    refine ⟨?_, ?_⟩
    · rw [firsts_filter_concat, if_neg fun both => kept (new.mpr both), ← h.screens]
    · simp only [List.length_append, List.length_singleton] at counted ⊢
      omega

theorem collected_classes (check : SubtypeCheck) (base : TypePath) (classes : List ClassEntry) :
    Collected check base classes [] (classes.foldl (addClass check base) ⟨[], 0⟩) := by
  induction classes using List.reverseRecOn with
  | nil => exact ⟨rfl, rfl⟩
  | append_singleton earlier e ih =>
    rw [List.foldl_append]
    exact ih.addClass e

end Classes

section Fields

variable {name : String} {f : Field} {e : FieldEntry}

theorem exists_of_mem_fieldsFor {screen : String} (h : f ∈ fieldsFor screen fields) :
    ∃ e, e.isAccepted = true ∧ f = fieldOf e := by
  obtain ⟨e, he, rfl⟩ := List.mem_map.mp h
  have passed := (List.mem_filter.mp ((firsts_sublist _ _).subset he)).2
  exact ⟨e, (Bool.and_eq_true _ _ ▸ passed).1, rfl⟩

theorem fieldsFor_concat (screen : String) (entries : List FieldEntry) (e : FieldEntry) :
    fieldsFor screen (entries ++ [e]) =
      if (e.isAccepted && e.enclosingText == screen) = true ∧
          e.payloadKey ∉ (fieldsFor screen entries).map (·.key) then
        fieldsFor screen entries ++ [fieldOf e]
      else fieldsFor screen entries := by
  simp only [map_key_fieldsFor, mem_map_firsts]
  rw [fieldsFor, firsts_filter_concat]
  split
  · rw [List.map_append, fieldsFor]
    rfl
  · rfl

theorem fields_addField (s : Screen) (f : Field) :
    (s.addField f).1.fields =
      if f.key ∉ s.fields.map (·.key) then s.fields ++ [f] else s.fields := by
  by_cases taken : s.hasKey f.key = true
  · rw [Screen.addField_of_taken taken, if_neg (not_not.mpr (Screen.hasKey_iff.mp taken))]
  · rw [Screen.addField_of_free taken, if_pos (mt Screen.hasKey_iff.mpr taken)]

/-- A field changes nothing of a screen but its fields. -/
theorem addField_eq_of_fields {s t : Screen} (identity : s.identity = t.identity)
    (package : s.package = t.package) (kind : s.isAbstract = t.isAbstract)
    (fields : (s.addField f).1.fields = t.fields) : (s.addField f).1 = t := by
  by_cases taken : s.hasKey f.key = true
  · rw [Screen.addField_of_taken taken] at fields ⊢
    exact Screen.ext identity package kind fields
  · rw [Screen.addField_of_free taken] at fields ⊢
    exact Screen.ext identity package kind fields

theorem length_addField (s : Screen) (f : Field) :
    (s.addField f).1.fields.length = s.fields.length + if (s.addField f).2 then 1 else 0 := by
  unfold Screen.addField
  split
  · rfl
  · exact List.length_append

theorem screenWith_concat_of_accepted (accepted : e.isAccepted = true) (c : ClassEntry) :
    screenWith (fields ++ [e]) c =
      if (screenWith fields c).identity.text = e.enclosingText then
        ((screenWith fields c).addField (fieldOf e)).1
      else screenWith fields c := by
  change _ = if c.identity.text = e.enclosingText then _ else _
  by_cases own : c.identity.text = e.enclosingText
  · have meant : (e.isAccepted && e.enclosingText == c.identity.text) = true := by
      simp [accepted, own]
    rw [if_pos own]
    symm
    refine addField_eq_of_fields rfl rfl rfl ?_
    change _ = fieldsFor _ _
    rw [fields_addField, fieldsFor_concat]
    simp only [meant, true_and]
    rfl
  · have other : ¬ (e.isAccepted && e.enclosingText == c.identity.text) = true := by
      simp [Ne.symm own]
    rw [if_neg own]
    refine screenWith_congr ?_
    rw [fieldsFor_concat, if_neg fun both => other both.1]

theorem screenWith_concat_of_refused (refused : ¬ e.isAccepted = true) (c : ClassEntry) :
    screenWith (fields ++ [e]) c = screenWith fields c := by
  refine screenWith_congr ?_
  rw [fieldsFor_concat, if_neg fun both => refused (Bool.and_eq_true _ _ ▸ both.1).1]

/-- Where identities differ, a field goes to the screen of the name and to no other. -/
theorem addTo_fst {screens : List Screen} (distinct : (screens.map (·.identity.text)).Nodup) :
    (addTo name f screens).1 =
      screens.map fun s => if s.identity.text = name then (s.addField f).1 else s := by
  induction screens with
  | nil => rfl
  | cons s rest ih =>
    obtain ⟨new, others⟩ := List.nodup_cons.mp distinct
    rw [addTo, List.map_cons]
    by_cases here : s.identity.text = name
    · -- the search stops here, and no later screen has the same identity
      have elsewhere : rest.map (fun t => if t.identity.text = name then (t.addField f).1 else t) =
          rest.map id := by
        refine List.map_congr_left fun t ht => if_neg fun again => new ?_
        exact List.mem_map.mpr ⟨t, ht, again.trans here.symm⟩
      rw [if_pos here, if_pos here, elsewhere, List.map_id]
    · rw [if_neg here, if_neg here, ← ih others]

theorem addTo_counted (name : String) (f : Field) (screens : List Screen) :
    (addTo name f screens).1.length = screens.length ∧
      ((addTo name f screens).1.flatMap (·.fields)).length =
        (screens.flatMap (·.fields)).length + if (addTo name f screens).2 then 1 else 0 := by
  induction screens with
  | nil => exact ⟨rfl, rfl⟩
  | cons s rest ih =>
    have own := length_addField s f
    rw [addTo]
    split
    · refine ⟨rfl, ?_⟩
      simp only [List.flatMap_cons, List.length_append]
      omega
    · simp only [List.length_cons, List.flatMap_cons, List.length_append]
      omega

theorem addField_of_accepted (accepted : e.isAccepted = true) (d : Discovery) :
    addField d e = ⟨(addTo e.enclosingText (fieldOf e) d.screens).1,
      if (addTo e.enclosingText (fieldOf e) d.screens).2 then d.ignored else d.ignored + 1⟩ := by
  rw [← FieldEntry.screenName_eq]
  exact if_pos accepted

theorem addField_of_refused (refused : ¬ e.isAccepted = true) (d : Discovery) :
    addField d e = { d with ignored := d.ignored + 1 } := if_neg refused

theorem Collected.addField (h : Collected check base classes fields d) (e : FieldEntry) :
    Collected check base classes (fields ++ [e]) (addField d e) := by
  have counted := h.counted
  by_cases accepted : e.isAccepted = true
  · have distinct : (d.screens.map (·.identity.text)).Nodup := h.identities ▸ nodup_map_firsts _ _
    obtain ⟨screens, members⟩ := addTo_counted e.enclosingText (fieldOf e) d.screens
    rw [addField_of_accepted accepted]
    refine ⟨?_, ?_⟩
    · rw [addTo_fst distinct, h.screens, List.map_map]
      refine List.map_congr_left fun c _ => ?_
      rw [Function.comp_apply, screenWith_concat_of_accepted accepted]
    · simp only [screens, members, List.length_append, List.length_singleton]
      split <;> omega
  · rw [addField_of_refused accepted]
    refine ⟨?_, ?_⟩
    · rw [h.screens]
      exact List.map_congr_left fun c _ => (screenWith_concat_of_refused accepted c).symm
    · simp only [List.length_append, List.length_singleton]
      omega

end Fields

/-- All entries of the manifest were looked at. -/
theorem discover_collected (m : Manifest) (check : SubtypeCheck) :
    Collected check m.baseType m.classes m.fields (discover m check) := by
  rw [discover]
  generalize m.fields = fields
  induction fields using List.reverseRecOn with
  | nil => exact collected_classes check m.baseType m.classes
  | append_singleton earlier e ih =>
    rw [List.foldl_append]
    exact ih.addField e

/-- Discovery finds, in the order of the manifest, the first accepted entry of each identity with the
first accepted field of each payload key, and every other entry is counted as ignored. -/
theorem discover_keeps_first_entries (m : Manifest) (check : SubtypeCheck) :
    (discover m check).screens =
        (firsts (·.identity.text) (m.classes.filter (·.isAccepted check m.baseType))).map
          (screenWith m.fields) ∧
      (discover m check).screens.length + ((discover m check).screens.flatMap (·.fields)).length +
        (discover m check).ignored = m.classes.length + m.fields.length := by
  have collected := discover_collected m check
  exact ⟨collected.screens, collected.counted⟩

end ScreenNavigation.Manifest
