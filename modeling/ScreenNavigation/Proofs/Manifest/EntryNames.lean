import ScreenNavigation.Manifest.Entry
import ScreenNavigation.Proofs.Declaration.SimpleNames
import ScreenNavigation.Proofs.Source.LastSegment

/-! The names an entry takes from its identity. Both are cut out of the text, at the last colons and in
front of the first angle bracket, and the path may have its last segment elsewhere. -/
namespace ScreenNavigation.Manifest

open Declaration Naming Source Text

section Colons

end Colons

section Trimming

variable {lead trail before after s : List Char} {c : Char}

end Trimming

end ScreenNavigation.Manifest
