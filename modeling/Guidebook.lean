import Guidebook.Main
import Guidebook.Proofs.Inheritance.Order
import Guidebook.Proofs.Markup.ListedSource
import Guidebook.Proofs.Markup.SinglePass
import Guidebook.Proofs.Markup.NestedBlocks
import Guidebook.Proofs.Markup.PlainText
import Guidebook.Proofs.Markup.ListedLines
import Guidebook.Proofs.Markup.Placeholders
import Guidebook.Proofs.Markup.UndeclaredApps
import Guidebook.Proofs.Website.Documents
import Guidebook.Proofs.Dictionary
import Guidebook.Proofs.Distinct
import Guidebook.Proofs.Guide.Merging
import Guidebook.Proofs.Inheritance.Evaluation
import Guidebook.Proofs.Inheritance.Refusal
import Guidebook.Proofs.Inheritance.Repetition
import Guidebook.Proofs.Inheritance.CallStack
import Guidebook.Proofs.Inheritance.VisitingStack
import Guidebook.Proofs.Corpus.Metadata
import Guidebook.Proofs.Corpus.Directories
import Guidebook.Proofs.Files.Location
import Guidebook.Proofs.Guide.Defaults
import Guidebook.Proofs.Corpus.Selection
import Guidebook.Proofs.Corpus.Loading
import Guidebook.Proofs.Markup.Excerpts
import Guidebook.Proofs.Corpus.VariantNames
import Guidebook.Proofs.Project.Descriptions
import Guidebook.Proofs.Date
import Guidebook.Proofs.Json.Writing
import Guidebook.Proofs.Guide.Writing
import Guidebook.Proofs.Markup.Grammar
import Guidebook.Proofs.Markup.Rewriting
import Guidebook.Proofs.Markup.LookAhead
import Guidebook.Proofs.Markup.AttributeLists
import Guidebook.Proofs.Markup.RegionMarks
import Guidebook.Proofs.Markup.LineRanges
import Guidebook.Proofs.Markup.JdkThresholds
import Guidebook.Proofs.Layout.NameReading
import Guidebook.Proofs.Guide.Matrix
import Guidebook.Proofs.Guide.FirstOccurrences
import Guidebook.Proofs.Markup.LinkLabels
import Guidebook.Proofs.Markup.TabbedValues
import Guidebook.Proofs.Layout.ShortestPaths
import Guidebook.Proofs.Markup.LinkFeatures
import Guidebook.Proofs.Markup.RunningOrder
import Guidebook.Proofs.Project.Exclusions
import Guidebook.Proofs.Project.Layers
