import ScreenNavigation.Decimal.Reading
import ScreenNavigation.Extras.Registers
import ScreenNavigation.Extras.ShapeReading
import ScreenNavigation.Generation.Run
import ScreenNavigation.Main
import ScreenNavigation.Navigation.Launch
import ScreenNavigation.Session.Recording
import ScreenNavigation.Proofs.Naming.FreeName
import ScreenNavigation.Proofs.Naming.Words
import ScreenNavigation.Proofs.Naming.LegalNames
import ScreenNavigation.Proofs.Naming.EscapedNames
import ScreenNavigation.Proofs.Naming.BuilderNames
import ScreenNavigation.Proofs.Manifest.Reachability
import ScreenNavigation.Proofs.Manifest.FirstEntries
import ScreenNavigation.Proofs.Manifest.DiscoveredScreens
import ScreenNavigation.Proofs.Builder.PlannedMembers
import ScreenNavigation.Proofs.Builder.EmissionFaults
import ScreenNavigation.Proofs.Generation.Placement
import ScreenNavigation.Proofs.Generation.GeneratedFiles
import ScreenNavigation.Proofs.Source.Scanning
import ScreenNavigation.Proofs.Declaration.SimpleNames
import ScreenNavigation.Proofs.Generation.FailureIsolation
import ScreenNavigation.Proofs.Extras.Entries
import ScreenNavigation.Proofs.Extras.Storage
import ScreenNavigation.Proofs.Navigation.Slots
import ScreenNavigation.Proofs.Navigation.ScreenSlots
import ScreenNavigation.Proofs.Navigation.RoundTrip
import ScreenNavigation.Proofs.Navigation.SavedState
import ScreenNavigation.Proofs.Manifest.CollectedEntries
import ScreenNavigation.Proofs.Manifest.EntryOrder
import ScreenNavigation.Proofs.Decimal.WholeNumbers
import ScreenNavigation.Proofs.Extras.Decoding
import ScreenNavigation.Proofs.Navigation.DecodedValues
import ScreenNavigation.Proofs.Decimal.Widening
import ScreenNavigation.Proofs.Extras.ReadingBack
import ScreenNavigation.Proofs.Extras.ValueParts
import ScreenNavigation.Proofs.Extras.History
import ScreenNavigation.Proofs.Navigation.Deliveries
import ScreenNavigation.Proofs.Navigation.Launches
import ScreenNavigation.Proofs.Builder.NameClashes
import ScreenNavigation.Proofs.Builder.Headers
import ScreenNavigation.Proofs.Generation.FileHeaders
import ScreenNavigation.Proofs.Declaration.ZeroLiterals
import ScreenNavigation.Proofs.Builder.ZeroMarkers
import ScreenNavigation.Proofs.Builder.MemberLists
import ScreenNavigation.Proofs.Generation.EmittedScreens
import ScreenNavigation.Proofs.Generation.Counts
import ScreenNavigation.Proofs.Builder.Reexports
import ScreenNavigation.Proofs.Generation.ModuleList
import ScreenNavigation.Proofs.Session.ListedScreens
import ScreenNavigation.Proofs.Builder.FunctionLists
import ScreenNavigation.Proofs.Builder.MethodAgreement
import ScreenNavigation.Proofs.Builder.OptionalFields
import ScreenNavigation.Proofs.Decimal.Rounding
import ScreenNavigation.Proofs.Decimal.ShortestDigits
import ScreenNavigation.Proofs.Decimal.Narrowing
import ScreenNavigation.Proofs.Decimal.PointedText
import ScreenNavigation.Proofs.Source.Literals
import ScreenNavigation.Proofs.Declaration.StorageTypes
import ScreenNavigation.Proofs.Declaration.SpelledMarkers
import ScreenNavigation.Proofs.Source.ParserSuffixes
import ScreenNavigation.Proofs.Source.SpelledTokens
import ScreenNavigation.Proofs.Source.TokenPositions
import ScreenNavigation.Proofs.Source.LastSegment
import ScreenNavigation.Proofs.Manifest.EntryNames
import ScreenNavigation.Proofs.Extras.Merging
import ScreenNavigation.Proofs.Navigation.DecodedFields
import ScreenNavigation.Proofs.Navigation.SaveTraces
import ScreenNavigation.Proofs.Manifest.FieldNames
import ScreenNavigation.Proofs.Naming.SanitizedNames
import ScreenNavigation.Proofs.Naming.DerivedNames
import ScreenNavigation.Proofs.Declaration.NestedTypes
import ScreenNavigation.Proofs.Naming.NamesInTurn
import ScreenNavigation.Proofs.Extras.WrittenExtras
