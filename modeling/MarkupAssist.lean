import MarkupAssist.Catalogue.Bundled
import MarkupAssist.Engine.Position
import MarkupAssist.Files.Tree
import MarkupAssist.Main
import MarkupAssist.Preview.Keyword
import MarkupAssist.Proofs.Markup.Automaton
import MarkupAssist.Proofs.Markup.Spelling
import MarkupAssist.Proofs.Markup.Search
import MarkupAssist.Proofs.Markup.ReportedTag
import MarkupAssist.Proofs.Json.Reading
import MarkupAssist.Proofs.Markup.TypedValue
import MarkupAssist.Proofs.Document.Insert
import MarkupAssist.Proofs.Suggestion.Acceptance
import MarkupAssist.Proofs.Markup.ForwardPass
import MarkupAssist.Proofs.Markup.LineTracking
import MarkupAssist.Proofs.Markup.ForwardAgreement
import MarkupAssist.Proofs.Catalogue.SkeletonContext
import MarkupAssist.Proofs.Json.Records
import MarkupAssist.Proofs.Preview.Identifier
import MarkupAssist.Proofs.Preview.PageStructure
import MarkupAssist.Proofs.Suggestion.Reading
import MarkupAssist.Proofs.CommandLine.Completion
import MarkupAssist.Proofs.Suggestion.Isolation
import MarkupAssist.Proofs.Catalogue.Representation
import MarkupAssist.Proofs.Markup.WindowLocality
import MarkupAssist.Proofs.Engine.Cancellation
import MarkupAssist.Proofs.Markup.CompletedValue
import MarkupAssist.Proofs.Markup.TagStart
import MarkupAssist.Proofs.Markup.ScriptCode
import MarkupAssist.Proofs.Markup.LineGrammar
import MarkupAssist.Proofs.Markup.ProbeGrammar
import MarkupAssist.Proofs.Catalogue.SkeletonOrder
import MarkupAssist.Proofs.Catalogue.SkeletonReading
import MarkupAssist.Proofs.Catalogue.SkeletonDepth
import MarkupAssist.Proofs.Markup.ScriptPass
import MarkupAssist.Proofs.Markup.WindowGrowth
import MarkupAssist.Proofs.Suggestion.BindingModes
import MarkupAssist.Proofs.Suggestion.Description
import MarkupAssist.Proofs.Suggestion.FirstLetter
import MarkupAssist.Proofs.Suggestion.GlobalEntries
import MarkupAssist.Proofs.Catalogue.FirstFault
import MarkupAssist.Proofs.Preview.WordCover
import MarkupAssist.Proofs.Preview.TagKeyword
import MarkupAssist.Proofs.Workspace.CatalogueSearch
import MarkupAssist.Proofs.Document.Offsets
