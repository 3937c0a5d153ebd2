/-!
Sets of code points written as the sorted list of the points where membership changes.
-/
namespace ScreenNavigation.Text

/-- Membership starts outside and flips at every boundary up to the code point. -/
def withinBoundaries (boundaries : Array Nat) (point : Nat) : Bool :=
  boundaries.foldl (fun inside b => if b ≤ point then !inside else inside) false

end ScreenNavigation.Text
