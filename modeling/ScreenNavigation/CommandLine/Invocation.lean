import ScreenNavigation.Terminal.Palette
import ScreenNavigation.Source.Item

/-!
What the arguments ask for, when they ask for a run.
-/
namespace ScreenNavigation.CommandLine

open Terminal (ColorMode ThemeMode)

structure GenerateOptions where
  input : String
  output : String
  visibility : Source.Visibility
  support : String
  verbose : Bool
  quiet : Bool
  deriving DecidableEq

inductive Action where
  | list (input : String)
  | generate (options : GenerateOptions)
  deriving DecidableEq

structure Invocation where
  action : Action
  color : ColorMode
  theme : ThemeMode
  deriving DecidableEq

end ScreenNavigation.CommandLine
