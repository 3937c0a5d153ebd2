import ScreenNavigation.Terminal.Palette

/-!
The commands of the program and their parameters.
-/
namespace ScreenNavigation.CommandLine

open Terminal (ColorMode ThemeMode)

inductive Parameter where
  | input | output | visibility | supportCrate | verbose | quiet | color | theme | help | version
  deriving DecidableEq, Repr

/-- Which texts a parameter takes as its value. -/
inductive Accepted where
  | anyText
  | path
  | oneOf (names : List String)
  deriving DecidableEq, Repr

/-- A parameter is a switch or takes one value, which help texts call by a placeholder. -/
inductive Form where
  | switch
  | value (placeholder : String) (accepted : Accepted)
  deriving DecidableEq, Repr

def Accepted.accepts : Accepted → String → Bool
  | .anyText, _ => true
  | .path, v => v != ""
  | .oneOf names, v => names.contains v

namespace Parameter

def long : Parameter → String
  | .input => "input"
  | .output => "output"
  | .visibility => "visibility"
  | .supportCrate => "support-crate"
  | .verbose => "verbose"
  | .quiet => "quiet"
  | .color => "color"
  | .theme => "theme"
  | .help => "help"
  | .version => "version"

def short? : Parameter → Option Char
  | .input => some 'i'
  | .output => some 'o'
  | .verbose => some 'v'
  | .quiet => some 'q'
  | .help => some 'h'
  | .version => some 'V'
  | _ => none

def form : Parameter → Form
  | .input => .value "FILE" .path
  | .output => .value "DIR" .path
  | .visibility => .value "VISIBILITY" (.oneOf ["public", "crate"])
  | .supportCrate => .value "PATH" .anyText
  | .color => .value "COLOR" (.oneOf (ColorMode.all.map (·.name)))
  | .theme => .value "THEME" (.oneOf (ThemeMode.all.map (·.name)))
  | _ => .switch

def default? : Parameter → Option String
  | .visibility => some "public"
  | .supportCrate => some "screen_starter_support"
  | .color => some ColorMode.auto.name
  | .theme => some ThemeMode.auto.name
  | _ => none

def isRequired : Parameter → Bool
  | .input => true
  | .output => true
  | _ => false

def about : Parameter → String
  | .input => "Path to the symbol manifest JSON file"
  | .output => "Directory the builder modules and their mod.rs are written to"
  | .visibility => "Visibility level for generated builders"
  | .supportCrate => "Path generated code uses to reach the runtime support crate"
  | .verbose => "Enable verbose output with detailed progress information"
  | .quiet => "Suppress non-essential output (errors only)"
  | .color => "Control color output"
  | .theme => "Terminal theme (dark or light background)"
  | .help => "Print help"
  | .version => "Print version"

/-- The values to choose from, if only some are accepted. -/
def choices (p : Parameter) : List String :=
  match p.form with
  | .value _ (.oneOf names) => names
  | _ => []

/-- The parameter as usage lines show it. -/
def shown (p : Parameter) : String :=
  match p.form with
  | .switch => "--" ++ p.long
  | .value placeholder _ => "--" ++ p.long ++ " <" ++ placeholder ++ ">"

end Parameter

/-- The program itself and its subcommands. -/
inductive Command where
  | program | list | generate | help
  deriving DecidableEq, Repr

namespace Command

def name : Command → String
  | .program => "screen-starter-gen"
  | .list => "list"
  | .generate => "generate"
  | .help => "help"

def subcommands : Command → List Command
  | .program => [.list, .generate, .help]
  | _ => []

def subcommand? (c : Command) (name : String) : Option Command :=
  c.subcommands.find? (·.name == name)

def about : Command → String
  | .program => "Generates navigation builders for annotated screens"
  | .list => "List the screens and fields found in a symbol manifest"
  | .generate => "Generate one builder module per screen"
  | .help => "Print this message or the help of the given subcommand(s)"

/-- The parameters that belong to the command alone, or to the program and so to all commands. -/
def ownParameters : Command → List Parameter
  | .program => [.color, .theme]
  | .list => [.input]
  | .generate => [.input, .output, .visibility, .supportCrate, .verbose, .quiet]
  | .help => []

/-- All parameters that a command understands. -/
def parameters : Command → List Parameter
  | .program => [.color, .theme, .help, .version]
  | .help => []
  | c => c.ownParameters ++ [.color, .theme, .help]

/-- The parameters in the order of the help text. -/
def listedParameters : Command → List Parameter
  | .generate =>
    [.input, .output, .color, .visibility, .supportCrate, .theme, .verbose, .quiet, .help]
  | c => c.parameters

def required (c : Command) : List Parameter := c.parameters.filter (·.isRequired)

def byLong? (c : Command) (name : String) : Option Parameter :=
  c.parameters.find? (·.long == name)

def byShort? (c : Command) (letter : Char) : Option Parameter :=
  c.parameters.find? (·.short? == some letter)

end Command

end ScreenNavigation.CommandLine
