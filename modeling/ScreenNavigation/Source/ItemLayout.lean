import ScreenNavigation.Layout.Lines
import ScreenNavigation.Source.ExpressionLayout
import ScreenNavigation.Source.Item

/-!
Items and files as documents. Every item ends its line, and so does every member and statement.
-/
namespace ScreenNavigation.Source

open Layout

private def code (s : String) : Document := .text s

private def nested (content : List Document) : Document := .group Document.step true content

def Visibility.mark : Visibility → String
  | .everywhere => "pub "
  | .crate => "pub(crate) "

/-- Whether the comment marks inside a text come in pairs; `depth` of them are open. -/
private def pairsComments (depth : Nat) : List Char → Bool
  | [] => depth == 0
  | '/' :: '*' :: rest => pairsComments (depth + 1) rest
  | '*' :: '/' :: rest => depth != 0 && pairsComments (depth - 1) rest
  | _ :: rest => pairsComments depth rest

private def dropSpaces (s : List Char) : List Char := (s.reverse.dropWhile (· == ' ')).reverse

/-- Removes spaces in front of line ends. -/
private def trimLines (s : String) : String :=
  match (s.splitOn "\n").reverse with
  | [] => s
  | last :: lines =>
    String.intercalate "\n" ((last :: lines.map fun l => String.ofList (dropSpaces l.toList)).reverse)

/-- Documentation of one line stands behind slashes, of several lines in a block comment, and what
would end that comment early stands in an attribute. -/
private def documentationLayout (s : String) : List Document :=
  if !s.toList.contains '\n' then
    [code "///", code (String.ofList (dropSpaces s.toList)), .line]
  else if pairsComments 0 s.toList then [code ("/**" ++ trimLines s ++ "*/"), .line]
  else [code ("#[doc = " ++ Text.stringLiteral s ++ "]"), .space]

private def receiverLayout : Receiver → List Document
  | .borrowed => [code "&self"]
  | .owned => [code "mut self"]

private def parameterLayout (p : String × Ty) : List Document :=
  code (p.1 ++ ": ") :: p.2.layout

private def Function.layout (v : Visibility) (f : Function) : List Document :=
  let inputs := (f.receiver.map receiverLayout).toList ++ f.parameters.map parameterLayout
  let output := match f.output with
    | none => []
    | some t => code " -> " :: t.layout
  f.documentation.flatMap documentationLayout ++
    [nested (code (v.mark ++ "fn " ++ f.name ++ "(") :: .fixed ::
      .group 0 true (Document.outdentLast (.empty :: Document.commaParts Document.trailingComma inputs)) ::
      code ")" :: .group (-Document.step) true output :: code " \x7b" ::
      Document.outdentLast (.break { Break.line with needsContent := true } :: statementsLayout f.body)),
    code "\x7d", .line]

private def Associated.layout (v : Visibility) : Associated → List Document
  | .key name text =>
    [.group 0 true
      [code (v.mark ++ "const " ++ name ++ ": &'static str = "), .fixed,
        code (Text.stringLiteral text ++ ";")], .line]
  | .function f => f.layout v

/-- A head with a block of lines in braces. -/
private def block (head : String) (lines : List Document) : List Document :=
  [nested (code (head ++ " \x7b") ::
    Document.outdentLast (.break { Break.line with needsContent := true } :: lines)),
    code "\x7d", .line]

private def importsLayout (source : Path) (names : List String) : List Document :=
  let parts := Document.separated [code ",", .space] (names.map fun n => [code n])
  let last := Document.trailingComma.shift (-Document.step)
  code "use " :: source.layout .name ++
    [code "::\x7b", nested [.empty, .group 0 false parts, .break last], code "\x7d", code ";", .line]

private def Item.layout (v : Visibility) : Item → List Document
  | .imports source names => importsLayout source names
  | .reexport source name => [code (v.mark ++ "use " ++ source ++ "::" ++ name ++ ";"), .line]
  | .module n => [nested [code (v.mark ++ "mod " ++ n ++ ";")], .line]
  | .structure documentation name fields =>
    documentationLayout documentation ++
      block (v.mark ++ "struct " ++ name)
        (fields.flatMap fun p => parameterLayout p ++ [code ",", .line])
  | .implementation name members =>
    block ("impl " ++ name) (members.flatMap (Associated.layout v))

/-- The text of a file. -/
def File.render (f : File) : String :=
  let lints := f.allowedLints.flatMap fun l => [code ("#![allow(" ++ l ++ ")]"), Document.space]
  Document.render [.group 0 true (lints ++ f.items.flatMap (Item.layout f.visibility))]

/-- The text of an item that is always one line. -/
def Item.line? (v : Visibility) : Item → Option String
  | .reexport source name => some (v.mark ++ "use " ++ source ++ "::" ++ name ++ ";")
  | .module n => some (v.mark ++ "mod " ++ n ++ ";")
  | _ => none

private theorem layout_of_line? {v : Visibility} {i : Item} {text : String}
    (h : i.line? v = some text) : ∃ l : Line, i.layout v = l.documents ∧ l.text = text := by
  cases i with
  | reexport source name => exact ⟨⟨text, none⟩, by cases h; rfl, rfl⟩
  | module n => exact ⟨⟨text, some (Document.step, true)⟩, by cases h; rfl, rfl⟩
  | _ => cases h

private theorem layouts_of_lines {v : Visibility} {items : List Item} {lines : List String}
    (h : items.map (Item.line? v) = lines.map some) :
    ∃ ls : List Line, items.flatMap (Item.layout v) = ls.flatMap Line.documents ∧
      ls.map (·.text) = lines := by
  induction items generalizing lines with
  | nil => exact ⟨[], rfl, (List.map_eq_nil_iff.mp h.symm).symm⟩
  | cons i rest ih =>
    obtain ⟨text, texts, rfl, own, others⟩ := List.map_eq_cons_iff.mp h.symm
    obtain ⟨l, same, rfl⟩ := layout_of_line? own.symm
    obtain ⟨ls, later, rfl⟩ := ih others.symm
    exact ⟨l :: ls, by rw [List.flatMap_cons, List.flatMap_cons, same, later], rfl⟩

/-- A file whose items are single lines is these lines. -/
theorem File.render_of_lines {f : File} {lines : List String} (lints : f.allowedLints = [])
    (h : f.items.map (Item.line? f.visibility) = lines.map some) :
    f.render = String.join (lines.map (· ++ "\n")) := by
  obtain ⟨ls, same, rfl⟩ := layouts_of_lines h
  rw [File.render, lints, List.flatMap_nil, List.nil_append, same, Document.render_lines, List.map_map]
  rfl

end ScreenNavigation.Source
