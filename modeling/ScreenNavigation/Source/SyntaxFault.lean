/-!
What can be wrong with the syntax of a path.
-/
namespace ScreenNavigation.Source

inductive SyntaxFault where
  | notTokens
  | unexpectedToken
  | expectedMark (text : String)
  | expected (choices : List String) (atEnd : Bool)
  | reservedName (word : String)
  | objectWithoutTrait
  | implementationWithoutTrait
  deriving DecidableEq, Repr

namespace SyntaxFault

/-- Whether the text ended where it had to go on. -/
def isEarlyEnd : SyntaxFault → Bool
  | .expected _ atEnd => atEnd
  | _ => false

end SyntaxFault

private def choiceText : List String → String
  | [] => "unexpected token"
  | [a] => "expected " ++ a
  | [a, b] => "expected " ++ a ++ " or " ++ b
  | all => "expected one of: " ++ String.intercalate ", " all

def SyntaxFault.message : SyntaxFault → String
  | .notTokens => "cannot parse string into token stream"
  | .unexpectedToken => "unexpected token"
  | .expectedMark text => "expected `" ++ text ++ "`"
  | .expected choices atEnd =>
    (if atEnd then "unexpected end of input, " else "") ++ choiceText choices
  | .reservedName word => "expected identifier, found keyword `" ++ word ++ "`"
  | .objectWithoutTrait => "at least one trait is required for an object type"
  | .implementationWithoutTrait => "at least one trait must be specified"

end ScreenNavigation.Source
