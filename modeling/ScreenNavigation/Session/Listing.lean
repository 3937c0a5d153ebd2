import ScreenNavigation.Manifest.Discovery
import ScreenNavigation.Terminal.Table

/-!
The table of the screens of a manifest, with a row for each field.
-/
namespace ScreenNavigation.Session

open Declaration Terminal

private def status (s : Screen) : String := if s.isAbstract then "abstract" else "emitted"

/-- The marker as it was read, also where it is the zero of its type. -/
private def markerText (f : Field) : String := if f.hasMarker then f.default.display else ""

private def row (s : Screen) (parts : List String) : List Cell :=
  ⟨s.identity.text, false⟩ :: parts.map (⟨·, false⟩) ++ [⟨status s, true⟩]

private def fieldRow (s : Screen) (f : Field) : List Cell :=
  row s [f.key, f.type.display, if f.isRequired then "required" else "optional", markerText f]

/-- A screen without fields has one row that says so. -/
def screenRows (s : Screen) : List (List Cell) :=
  if s.fields.isEmpty then [row s ["-", "", "", ""]] else s.fields.map (fieldRow s)

/-- Every row of a screen starts with its identity and ends with its status. -/
theorem ends_of_mem_screenRows {s : Screen} {cells : List Cell} (h : cells ∈ screenRows s) :
    cells.head? = some ⟨s.identity.text, false⟩ ∧
      cells.getLast? = some ⟨if s.isAbstract then "abstract" else "emitted", true⟩ := by
  have ends (parts : List String) : (row s parts).head? = some ⟨s.identity.text, false⟩ ∧
      (row s parts).getLast? = some ⟨if s.isAbstract then "abstract" else "emitted", true⟩ :=
    ⟨rfl, by rw [row, status, List.getLast?_concat]⟩
  rw [screenRows] at h
  split at h
  · rw [List.mem_singleton.mp h]
    exact ends _
  · obtain ⟨f, _, rfl⟩ := List.mem_map.mp h
    exact ends _

/-- The rows of a screen stand for its fields, in order. -/
theorem screenRows_fields (s : Screen) : (screenRows s).map (·[1]?) =
    (if s.fields.isEmpty then ["-"] else s.fields.map (·.key)).map fun text => some ⟨text, false⟩ := by
  rw [screenRows]
  split
  · rfl
  · rw [List.map_map, List.map_map]
    rfl

def listing (d : Manifest.Discovery) : Table :=
  ⟨["SCREEN", "FIELD", "TYPE", "KIND", "DEFAULT", "STATUS"].map (⟨·, false⟩),
    d.screens.flatMap screenRows⟩

end ScreenNavigation.Session
