import ScreenNavigation.Text.Characters

/-!
The colours of log lines and tables. A palette has one colour for each role, by the background of
the terminal, or none at all.
-/
namespace ScreenNavigation.Terminal

/-- When output is coloured. -/
inductive ColorMode where
  | always | auto | never
  deriving DecidableEq, Repr

/-- What is said about the background of the terminal. -/
inductive ThemeMode where
  | dark | light | auto
  deriving DecidableEq, Repr

inductive Theme where
  | dark | light
  deriving DecidableEq, Repr

namespace ColorMode

def name : ColorMode → String
  | .always => "always"
  | .auto => "auto"
  | .never => "never"

def all : List ColorMode := [.always, .auto, .never]

def ofName? (s : String) : Option ColorMode := all.find? (·.name == s)

/-- Whether to colour output that goes to a terminal or elsewhere. -/
def isEnabled (m : ColorMode) (toTerminal : Bool) : Bool :=
  match m with
  | .always => true
  | .auto => toTerminal
  | .never => false

end ColorMode

/-- A number from 0 to 255 in decimal digits, maybe with a plus sign. -/
private def byte? (s : List Char) : Option Nat :=
  let digits := if s.head? = some '+' then s.drop 1 else s
  if digits.isEmpty || !digits.all Text.isAsciiDigit then none
  else
    let n := digits.foldl (fun n c => 10 * n + (c.toNat - '0'.toNat)) 0
    if n ≤ 255 then some n else none

private def lastPart (s : List Char) : List Char :=
  (s.reverse.takeWhile (· != ';')).reverse

/-- The theme of a terminal that tells its colours as `foreground;background`: from the eighth
colour on the background is light. -/
def Theme.ofTerminal (colors : Option String) : Theme :=
  match colors.bind fun s => byte? (lastPart s.toList) with
  | some background => if 8 ≤ background then .light else .dark
  | none => .dark

namespace ThemeMode

def name : ThemeMode → String
  | .dark => "dark"
  | .light => "light"
  | .auto => "auto"

def all : List ThemeMode := [.dark, .light, .auto]

def ofName? (s : String) : Option ThemeMode := all.find? (·.name == s)

/-- The theme to use, given what the terminal tells about its colours. -/
def theme (m : ThemeMode) (terminalColors : Option String) : Theme :=
  match m with
  | .dark => .dark
  | .light => .light
  | .auto => .ofTerminal terminalColors

end ThemeMode

/-- What a coloured text is for. -/
inductive Role where
  | timestamp | primary | accent | success | label | value
  deriving DecidableEq, Repr

structure Rgb where
  red : UInt8
  green : UInt8
  blue : UInt8
  deriving DecidableEq, Repr

def Role.rgb : Role → Theme → Rgb
  | .timestamp, .dark => ⟨118, 166, 166⟩
  | .timestamp, .light => ⟨92, 62, 38⟩
  | .success, .dark => ⟨118, 166, 166⟩
  | .success, .light => ⟨34, 142, 90⟩
  | .primary, .dark => ⟨191, 126, 4⟩
  | .primary, .light => ⟨70, 42, 25⟩
  | .accent, .dark => ⟨166, 84, 55⟩
  | .accent, .light => ⟨211, 99, 70⟩
  | .label, .dark => ⟨217, 164, 4⟩
  | .label, .light => ⟨176, 103, 66⟩
  | .value, .dark => ⟨242, 211, 56⟩
  | .value, .light => ⟨199, 146, 76⟩

structure Palette where
  enabled : Bool
  theme : Theme
  deriving DecidableEq, Repr

namespace Palette

/-- The colour of a role; none is the terminal's own. -/
def pick (p : Palette) (r : Role) : Option Rgb :=
  if p.enabled then some (r.rgb p.theme) else none

private def foreground : Option Rgb → String
  | none => "39"
  | some c => "38;2;" ++ toString c.red ++ ";" ++ toString c.green ++ ";" ++ toString c.blue

private def escape (code : String) : String := "\x1b[" ++ code ++ "m"

/-- The text in the colour of a role; the terminal's own colour is set again after it. -/
def paint (p : Palette) (r : Role) (text : String) : String :=
  escape (foreground (p.pick r)) ++ text ++ escape (foreground none)

end Palette

end ScreenNavigation.Terminal
