import RouteDoc.Main
import RouteDoc.Proofs.BuildOutcomes
import RouteDoc.Proofs.BytePlaces
import RouteDoc.Proofs.ClosingQuotes
import RouteDoc.Proofs.DialectSimulation
import RouteDoc.Proofs.DistinctOutputs
import RouteDoc.Proofs.DocumentProfiles
import RouteDoc.Proofs.ErrorAttribution
import RouteDoc.Proofs.ErrorExcerpts
import RouteDoc.Proofs.ExactSearches
import RouteDoc.Proofs.FirstFailures
import RouteDoc.Proofs.FunctionNames
import RouteDoc.Proofs.GeneratedStrings
import RouteDoc.Proofs.GrammarEquivalence
import RouteDoc.Proofs.IsolatedFailures
import RouteDoc.Proofs.JoinedSources
import RouteDoc.Proofs.JsonDocuments
import RouteDoc.Proofs.LatestFormats
import RouteDoc.Proofs.LayeredSettings
import RouteDoc.Proofs.Preambles
import RouteDoc.Proofs.PrintedDocuments
import RouteDoc.Proofs.RecoveredDocuments
import RouteDoc.Proofs.ShownOutputs
import RouteDoc.Proofs.SourcesKept
import RouteDoc.Proofs.SpellingRoundTrip
import RouteDoc.Proofs.TokenListings
import RouteDoc.Proofs.UseItems
import RouteDoc.Proofs.WatchPeriods
import RouteDoc.Proofs.WatchedChanges
