import EntityGraph.Condition.Basic
import EntityGraph.Condition.Expression
import EntityGraph.Condition.FieldMatch
import EntityGraph.Condition.Operator
import EntityGraph.Condition.Threshold
import EntityGraph.Embedding.Basic
import EntityGraph.Embedding.Hashing
import EntityGraph.Graph.Entity
import EntityGraph.Graph.Properties
import EntityGraph.Graph.Relationship
import EntityGraph.Graph.Value
import EntityGraph.Json.Basic
import EntityGraph.Json.Printer
import EntityGraph.Json.Reader
import EntityGraph.Json.Record
import EntityGraph.Number.Binary
import EntityGraph.Number.Decimal
import EntityGraph.Number.Double
import EntityGraph.Number.Shortest
import EntityGraph.Number.Style
import EntityGraph.Pattern.Basic
import EntityGraph.Pattern.CharTest
import EntityGraph.Pattern.Escape
import EntityGraph.Pattern.Parser
import EntityGraph.Pattern.Property
import EntityGraph.Pattern.Search
import EntityGraph.Pattern.SetParser
import EntityGraph.Pattern.Tree
import EntityGraph.Proofs.Addressing
import EntityGraph.Proofs.BagOfWords
import EntityGraph.Proofs.BracketedNames
import EntityGraph.Proofs.CalendarDates
import EntityGraph.Proofs.CaseContext
import EntityGraph.Proofs.ClauseLanguage
import EntityGraph.Proofs.ComparisonLaws
import EntityGraph.Proofs.ConditionLanguages
import EntityGraph.Proofs.ConsolidationContents
import EntityGraph.Proofs.ConsolidationCounts
import EntityGraph.Proofs.ConsolidationFaults
import EntityGraph.Proofs.DeeperSearch
import EntityGraph.Proofs.DigitText
import EntityGraph.Proofs.DoubleReading
import EntityGraph.Proofs.DoubleText
import EntityGraph.Proofs.EntityUpdates
import EntityGraph.Proofs.Expansion
import EntityGraph.Proofs.FieldClauses
import EntityGraph.Proofs.FilterPipeline
import EntityGraph.Proofs.HistoryContents
import EntityGraph.Proofs.InducedSubgraphs
import EntityGraph.Proofs.InsertionOrder
import EntityGraph.Proofs.IntegerComparisons
import EntityGraph.Proofs.IntegerOrder
import EntityGraph.Proofs.JsonReading
import EntityGraph.Proofs.JsonTokens
import EntityGraph.Proofs.LayeringInvariant
import EntityGraph.Proofs.LevelInvariant
import EntityGraph.Proofs.Listing
import EntityGraph.Proofs.ListingRefinement
import EntityGraph.Proofs.ListingSearch
import EntityGraph.Proofs.LiteralSearch
import EntityGraph.Proofs.MappingClauses
import EntityGraph.Proofs.MergedAttributes
import EntityGraph.Proofs.MergedReach
import EntityGraph.Proofs.Mutation
import EntityGraph.Proofs.NamingInvariant
import EntityGraph.Proofs.NumberOrder
import EntityGraph.Proofs.NumberScan
import EntityGraph.Proofs.NumberStyles
import EntityGraph.Proofs.PathEnumeration
import EntityGraph.Proofs.PathRows
import EntityGraph.Proofs.QueryAnswers
import EntityGraph.Proofs.QueueSearch
import EntityGraph.Proofs.Reachability
import EntityGraph.Proofs.Redirection
import EntityGraph.Proofs.Renaming
import EntityGraph.Proofs.RepeatedSources
import EntityGraph.Proofs.ResponseRoundTrip
import EntityGraph.Proofs.Restoration
import EntityGraph.Proofs.Rounding
import EntityGraph.Proofs.RoundingOrder
import EntityGraph.Proofs.RowContents
import EntityGraph.Proofs.SavedStore
import EntityGraph.Proofs.SearchAgreement
import EntityGraph.Proofs.SelfMatching
import EntityGraph.Proofs.ShortestPaths
import EntityGraph.Proofs.ShownFields
import EntityGraph.Proofs.SlotLookup
import EntityGraph.Proofs.SnapshotContents
import EntityGraph.Proofs.SnapshotDecoding
import EntityGraph.Proofs.SnapshotRoundTrip
import EntityGraph.Proofs.SortOrder
import EntityGraph.Proofs.SortedItems
import EntityGraph.Proofs.StableSort
import EntityGraph.Proofs.StoreHistory
import EntityGraph.Proofs.StoreInvariant
import EntityGraph.Proofs.TidyContents
import EntityGraph.Proofs.TimelyContents
import EntityGraph.Proofs.TimestampText
import EntityGraph.Proofs.VectorLength
import EntityGraph.Proofs.Walk
import EntityGraph.Proofs.WordRuns
import EntityGraph.Proofs.WrappedNames
import EntityGraph.Proofs.WrittenConditions
import EntityGraph.Query.Basic
import EntityGraph.Query.Clause
import EntityGraph.Query.Config
import EntityGraph.Query.Engine
import EntityGraph.Query.Error
import EntityGraph.Query.Execution
import EntityGraph.Query.Filter
import EntityGraph.Query.NodePlan
import EntityGraph.Query.PathPlan
import EntityGraph.Results.Response
import EntityGraph.Results.Row
import EntityGraph.Results.Sort
import EntityGraph.Settings
import EntityGraph.Snapshot.Basic
import EntityGraph.Snapshot.FileTree
import EntityGraph.Snapshot.Files
import EntityGraph.Snapshot.Json
import EntityGraph.Store.Basic
import EntityGraph.Store.Config
import EntityGraph.Store.Consolidation
import EntityGraph.Store.Error
import EntityGraph.Store.Paths
import EntityGraph.Store.Search
import EntityGraph.Store.Traversal
import EntityGraph.Store.View
import EntityGraph.Text.Alphabetic
import EntityGraph.Text.Blank
import EntityGraph.Text.Case.Fold
import EntityGraph.Text.Case.Lower
import EntityGraph.Text.Case.Tables
import EntityGraph.Text.Category.Letters
import EntityGraph.Text.Category.Marks
import EntityGraph.Text.Category.Signs
import EntityGraph.Text.CodeSet
import EntityGraph.Text.GraphemeExtend
import EntityGraph.Text.Hex
import EntityGraph.Text.Letter
import EntityGraph.Text.Quoted
import EntityGraph.Text.Script
import EntityGraph.Text.Search
import EntityGraph.Time.Instant
import EntityGraph.Time.Layout
import EntityGraph.Toml.Line
import EntityGraph.Toml.Quoted
import EntityGraph.Toml.Scalar
import EntityGraph.Toml.Section
import EntityGraph.Toml.Table
import EntityGraph.Yaml.Cursor
import EntityGraph.Yaml.Document
import EntityGraph.Yaml.Node
import EntityGraph.Yaml.Resolve
import EntityGraph.Yaml.Scalar
import EntityGraph.Yaml.Tag
import EntityGraph.Yaml.Token
import EntityGraph.Proofs.Unwinding
import EntityGraph.Proofs.LayeredSearch
