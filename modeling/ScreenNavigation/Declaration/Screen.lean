import ScreenNavigation.Declaration.Field

/-!
Screens with their payload fields in the order in which they were found; no two fields share a key.
-/
namespace ScreenNavigation.Declaration

@[ext]
structure Screen where
  identity : TypePath
  package : String
  isAbstract : Bool
  fields : List Field
  distinct : (fields.map (·.key)).Nodup

namespace Screen

def hasKey (s : Screen) (key : String) : Bool := s.fields.any (·.key == key)

theorem hasKey_iff {s : Screen} {key : String} :
    s.hasKey key = true ↔ key ∈ s.fields.map (·.key) := by
  simp [hasKey]

private theorem nodup_keys_concat {s : Screen} {f : Field} (free : ¬ s.hasKey f.key = true) :
    ((s.fields ++ [f]).map (·.key)).Nodup := by
  rw [List.map_append, List.nodup_append]
  refine ⟨s.distinct, by simp, fun k hk l hl same => free (hasKey_iff.mpr ?_)⟩
  have own : k = f.key := same.trans (List.mem_singleton.mp hl)
  rwa [← own]

/-- Adds a field unless its key is taken, and tells whether it did. -/
def addField (s : Screen) (f : Field) : Screen × Bool :=
  if taken : s.hasKey f.key = true then (s, false)
  else ({ s with fields := s.fields ++ [f], distinct := nodup_keys_concat taken }, true)

theorem addField_of_taken {s : Screen} {f : Field} (taken : s.hasKey f.key = true) :
    s.addField f = (s, false) := dif_pos taken

theorem addField_of_free {s : Screen} {f : Field} (free : ¬ s.hasKey f.key = true) :
    s.addField f = ({ s with fields := s.fields ++ [f], distinct := nodup_keys_concat free }, true) :=
  dif_neg free

/-- The last segment of the identity, without arguments. -/
def simpleName (s : Screen) : String := Naming.simpleName s.identity.text

def builderName (s : Screen) : String := s.simpleName ++ "Builder"

def moduleName (s : Screen) : String := Naming.moduleName s.builderName

def required (s : Screen) : List Field := s.fields.filter Field.isRequired

def optional (s : Screen) : List Field := s.fields.filter Field.isOptional

end Screen

end ScreenNavigation.Declaration
