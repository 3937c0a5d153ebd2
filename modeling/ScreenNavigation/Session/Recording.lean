import ScreenNavigation.Files.Tree
import ScreenNavigation.Session.Run

/-!
Surroundings that only record: files are those of a tree, and what is printed is kept.
-/
namespace ScreenNavigation.Session

structure Recording where
  files : Files.Tree
  output : List String := []
  warnings : List String := []
  deriving DecidableEq, Repr

namespace Recording

/-- Lines as one text. -/
def text (lines : List String) : String := String.join (lines.map (· ++ "\n"))

/-- The surroundings at a fixed time. -/
def surroundings (time : String) : Surroundings (StateM Recording) where
  time := pure time
  print line := modify fun r => { r with output := r.output ++ [line] }
  warn line := modify fun r => { r with warnings := r.warnings ++ [line] }
  readFile path := do return (← get).files.read path
  makeDirectories path := do
    let (files, fault) := (← get).files.makeDirectories path
    modify fun r => { r with files := files }
    return fault
  writeFile path text := do
    match (← get).files.write path text with
    | .ok files =>
      modify fun r => { r with files := files }
      return none
    | .error f => return some f

/-- A manifest that is read is listed, and nothing else changes. -/
theorem run_list_of_read {time : String} {r : Recording} {input text : String} {manifest : Manifest}
    (opened : r.files.read input = .ok text) (read : Manifest.read text = .ok manifest) (width : Nat) :
    (list (surroundings time) width input).run.run r =
      (.ok (), { r with output := r.output ++
        [(listing (Manifest.discover manifest (Manifest.declaredSubtypes manifest))).render width] }) := by
  have reading : ((surroundings time).readFile input).run r = (.ok text, r) := congrArg (·, r) opened
  rw [run_list, StateT.run_bind, reading]
  simp only [bind, read]
  rfl

end Recording

end ScreenNavigation.Session
