import ScreenNavigation.CommandLine.Similarity
import ScreenNavigation.CommandLine.Usage

/-!
Why arguments do not lead to a run: they ask for help or the version, or something is wrong with
them. Every reason has its text.
-/
namespace ScreenNavigation.CommandLine

/-- A parameter that may have been meant: of the same command, or of a subcommand that is named
later. -/
inductive Hint where
  | here (p : Parameter)
  | within (c : Command) (p : Parameter)
  deriving DecidableEq, Repr

inductive Refusal where
  | help (c : Command)
  | version
  | nothingGiven
  | missingCommand
  | unknownCommand (c : Command) (name : String) (similar : List String)
  | escapedCommand (name : String)
  | unknownArgument (c : Command) (shown : String) (hint : Option Hint) (mentions : List Mention)
  | missingValue (p : Parameter)
  | invalidValue (p : Parameter) (value : String)
  | repeated (c : Command) (p : Parameter)
  | unexpectedValue (c : Command) (p : Parameter) (value : String) (mentions : List Mention)
  | missingRequired (c : Command) (missing : List Parameter) (mentions : List Mention)
  deriving DecidableEq, Repr

namespace Refusal

private def bracketed (title : String) (names : List String) : String :=
  if names.isEmpty then "" else "\n  [" ++ title ++ ": " ++ ", ".intercalate names ++ "]"

private def tip (text : String) : String := "\n\n  tip: " ++ text

private def inQuotes (s : String) : String := "'" ++ s ++ "'"

private def similarCommands : List String → String
  | [] => ""
  | [name] => tip ("a similar subcommand exists: " ++ inQuotes name)
  | names => tip ("some similar subcommands exist: " ++ ", ".intercalate (names.map inQuotes))

private def hintText : Option Hint → String
  | none => ""
  | some (.here p) => tip ("a similar argument exists: '--" ++ p.long ++ "'")
  | some (.within c p) => tip ("'" ++ c.name ++ " --" ++ p.long ++ "' exists")

private def similarValue (p : Parameter) (value : String) : String :=
  match (similarNames value p.choices).getLast? with
  | some name => tip ("a similar value exists: " ++ inQuotes name)
  | none => ""

private def choicesText (p : Parameter) : String := bracketed "possible values" p.choices

private def usageText (c : Command) (mentions : List Mention) : String := "\n\n" ++ c.usage mentions

private def noValue (p : Parameter) : String :=
  "a value is required for " ++ inQuotes p.shown ++ " but none was supplied" ++ choicesText p

/-- What is wrong, with hints and the usage line. -/
private def problem : Refusal → String
  | .help _ => ""
  | .version => ""
  | .nothingGiven => ""
  | .missingCommand =>
    inQuotes Command.program.name ++ " requires a subcommand but one was not provided" ++
      bracketed "subcommands" (Command.program.subcommands.map (·.name)) ++ usageText .program []
  | .unknownCommand c name similar =>
    "unrecognized subcommand " ++ inQuotes name ++ similarCommands similar ++ usageText c []
  | .escapedCommand name =>
    "unexpected argument " ++ inQuotes name ++ " found" ++
      tip ("subcommand " ++ inQuotes name ++ " exists; to use it, remove the '--' before it") ++
      usageText .program []
  | .unknownArgument c shown hint mentions =>
    "unexpected argument " ++ inQuotes shown ++ " found" ++ hintText hint ++ usageText c mentions
  | .missingValue p => noValue p
  | .invalidValue p value =>
    if value = "" then noValue p
    else "invalid value " ++ inQuotes value ++ " for " ++ inQuotes p.shown ++ choicesText p ++
      similarValue p value
  | .repeated c p =>
    "the argument " ++ inQuotes p.shown ++ " cannot be used multiple times" ++ usageText c []
  | .unexpectedValue c p value mentions =>
    "unexpected value " ++ inQuotes value ++ " for " ++ inQuotes p.shown ++
      " found; no more were expected" ++ usageText c mentions
  | .missingRequired c missing mentions =>
    "the following required arguments were not provided:" ++
      String.join (missing.map fun p => "\n  " ++ p.shown) ++ usageText c mentions

/-- Only commands with a help parameter point to it. -/
private def helpPointer : Refusal → String
  | .unknownCommand .help _ _ => "\n"
  | _ => "\n\nFor more information, try '--help'.\n"

/-- The text that is printed instead of a run. -/
def message : Refusal → String
  | .help c => c.helpText
  | .nothingGiven => Command.program.helpText
  | .version => versionText
  | r => "error: " ++ r.problem ++ r.helpPointer

/-- Help and version are no failures when they were asked for. -/
def exitCode : Refusal → Nat
  | .help _ => 0
  | .version => 0
  | _ => 2

end Refusal

end ScreenNavigation.CommandLine
