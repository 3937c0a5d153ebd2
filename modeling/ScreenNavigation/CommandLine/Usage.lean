import ScreenNavigation.Builder.Emission
import ScreenNavigation.CommandLine.Command

/-!
The texts that explain a command: its usage line and its help.
-/
namespace ScreenNavigation.CommandLine

/-- What a usage line shows as already given: single parameters, or the command's own parameters as
alternatives. -/
inductive Mention where
  | one (p : Parameter)
  | own
  deriving DecidableEq, Repr

def Mention.parameter? : Mention → Option Parameter
  | .one p => some p
  | .own => none

namespace Command

private def spaced (parts : List String) : String := " ".intercalate parts

/-- The words that call the command. -/
def call (c : Command) : String :=
  match c with
  | .program => c.name
  | _ => Command.program.name ++ " " ++ c.name

private def rest : Command → List String
  | .program => ["<COMMAND>"]
  | .help => ["[COMMAND]..."]
  | _ => []

private def alternatives (c : Command) : String :=
  "<" ++ "|".intercalate (c.ownParameters.map (·.shown)) ++ ">"

/-- The usage line of a command. With nothing mentioned the optional parameters stand behind a
placeholder; else the line shows what is required and what was mentioned. -/
def usage (c : Command) (mentions : List Mention) : String :=
  let required := c.required
  let middle :=
    if mentions.isEmpty then
      (if c.parameters.isEmpty then [] else ["[OPTIONS]"]) ++ required.map (·.shown)
    else
      let hasOwn := mentions.contains .own
      let parameters := (required ++ mentions.filterMap Mention.parameter?).eraseDups
      (parameters.filter fun p => !(hasOwn && c.ownParameters.contains p)).map (·.shown) ++
        if hasOwn then [c.alternatives] else []
  "Usage: " ++ spaced (c.call :: middle ++ c.rest)

private def columnGap : Nat := 2

private def padded (width : Nat) (s : String) : String :=
  s ++ String.ofList (List.replicate (width - s.length) ' ')

/-- Entries with their explanations in a second column. -/
private def listing (title : String) (entries : List (String × String)) : String :=
  let width := (entries.map (·.1.length)).foldl max 0 + columnGap
  title ++ ":\n" ++ String.join (entries.map fun (entry, about) =>
    "  " ++ padded width entry ++ about ++ "\n")

private def entryOf (p : Parameter) : String × String :=
  (match p.short? with
    | some letter => "-" ++ letter.toString ++ ", " ++ p.shown
    | none => "    " ++ p.shown,
  spaced (p.about ::
    (match p.default? with
    | some d => ["[default: " ++ d ++ "]"]
    | none => []) ++
    if p.choices.isEmpty then [] else ["[possible values: " ++ ", ".intercalate p.choices ++ "]"]))

/-- The parts of the help text that list what may follow the command. -/
private def listings (c : Command) : List String :=
  match c with
  | .help => [listing "Arguments" [("[COMMAND]...", "Print help for the subcommand(s)")]]
  | _ =>
    (if c.subcommands.isEmpty then []
      else [listing "Commands" (c.subcommands.map fun s => (s.name, s.about))]) ++
    [listing "Options" (c.listedParameters.map entryOf)]

def helpText (c : Command) : String :=
  c.about ++ "\n\n" ++ c.usage [] ++ "\n\n" ++ "\n".intercalate c.listings

end Command

/-- The name of the program with its version. -/
def versionText : String := Command.program.name ++ " " ++ Builder.version ++ "\n"

end ScreenNavigation.CommandLine
