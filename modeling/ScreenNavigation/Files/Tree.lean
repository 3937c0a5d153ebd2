import ScreenNavigation.Files.Fault

/-!
A directory with all that is below it. Paths are relative to it, and the directory above it counts
as the directory itself.
-/
namespace ScreenNavigation.Files

/-- The names that lead to an entry. -/
abbrev Location := List String

inductive Node where
  | file (text : String)
  | directory
  deriving DecidableEq, Repr

/-- Entries in the order of their creation. -/
structure Tree where
  entries : List (Location × Node)
  deriving DecidableEq, Repr

/-- The names in a path; a dot stands for the directory itself, two dots for the one above. -/
def names (path : String) : List String := (path.splitOn "/").filter (· != "")

/-- The names that lead to the directory in which a path makes its last entry. -/
def parent (names : List String) : List String :=
  ((names.reverse.dropWhile (· == ".")).drop 1).reverse

theorem length_parent_lt {names : List String} (h : names ≠ []) :
    (parent names).length < names.length := by
  have hd := (List.dropWhile_sublist (l := names.reverse) (· == ".")).length_le
  have hn := List.length_pos_iff.2 h
  simp only [parent, List.length_reverse, List.length_drop] at hd ⊢
  omega

namespace Tree

def empty : Tree := ⟨[]⟩

def find? (t : Tree) (place : Location) : Option Node :=
  if place = [] then some .directory else (t.entries.find? (·.1 == place)).map (·.2)

/-- The longest name of an entry, in bytes. -/
def longestName : Nat := 255

/-- Goes from a directory to the entry of some name, which need not exist. -/
private def step (t : Tree) (place : Location) (name : String) : Except Fault Location :=
  match t.find? place with
  | none => .error .notFound
  | some (.file _) => .error .notDirectory
  | some .directory =>
    if name = "." then .ok place
    else if name = ".." then .ok place.dropLast
    else if longestName < name.utf8ByteSize then .error .nameTooLong
    else .ok (place ++ [name])

/-- Where names lead from the top. -/
def walk (t : Tree) (names : List String) : Except Fault Location := names.foldlM t.step []

def lookUp (t : Tree) (names : List String) : Except Fault Node := do
  match t.find? (← t.walk names) with
  | some node => return node
  | none => throw .notFound

def isDirectory (t : Tree) (names : List String) : Bool :=
  match t.lookUp names with
  | .ok .directory => true
  | _ => false

/-- The text of a file; a slash at the end of its path asks for a directory. -/
def read (t : Tree) (path : String) : Except OpenFault String :=
  match t.lookUp (names path ++ if path.endsWith "/" then ["."] else []) with
  | .ok (.file text) => .ok text
  | .ok .directory => .error (.unmapped .noSuchDevice)
  | .error f => .error (.unopened f)

/-- Puts a text into a file, new or not. -/
def write (t : Tree) (path : String) (text : String) : Except Fault Tree := do
  let place ← t.walk (names path)
  match t.find? place with
  | some .directory => throw .isDirectory
  | some (.file _) =>
    return ⟨t.entries.map fun e => if e.1 = place then (place, .file text) else e⟩
  | none => return ⟨t.entries ++ [(place, .file text)]⟩

private def addDirectory (t : Tree) (names : List String) : Except Fault Tree := do
  let place ← t.walk names
  match t.find? place with
  | some _ => throw .alreadyExists
  | none => return ⟨t.entries ++ [(place, .directory)]⟩

/-- A directory that cannot be made is no failure if it is there. -/
private def ensureDirectory (t : Tree) (names : List String) : Tree × Option Fault :=
  match t.addDirectory names with
  | .ok t => (t, none)
  | .error f => (t, if t.isDirectory names then none else some f)

/-- Makes a directory, after those that it lies in; what is made before a failure stays. -/
def addDirectories (t : Tree) (names : List String) : Tree × Option Fault :=
  if h : names = [] then (t, none)
  else
    have : (parent names).length < names.length := length_parent_lt h
    match t.ensureDirectory names with
    | (t, some f) =>
      if f = .notFound then
        match t.addDirectories (parent names) with
        | (t, none) => t.ensureDirectory names
        | failed => failed
      else (t, some f)
    | made => made
termination_by names.length

def makeDirectories (t : Tree) (path : String) : Tree × Option Fault :=
  t.addDirectories (names path)

end Tree

end ScreenNavigation.Files
