import DocQuery.Session
import DocQuery.Path.FlatKeys
import DocQuery.Query.Grammar
import DocQuery.Proofs.Expansion
import DocQuery.Proofs.Content
import DocQuery.Proofs.CacheLookup
import DocQuery.Proofs.Parts
import DocQuery.Proofs.Tracking
import DocQuery.Proofs.Traversal
import DocQuery.Proofs.Log
import DocQuery.Proofs.History
import DocQuery.Proofs.Soundness
import DocQuery.Proofs.Shape
import DocQuery.Proofs.Twins
import DocQuery.Proofs.Serving
import DocQuery.Proofs.Identity
import DocQuery.Proofs.Purging
import DocQuery.Proofs.Counting
import DocQuery.Proofs.Comparisons
import DocQuery.Proofs.ExactDoubles
import DocQuery.Proofs.SortOrder
import DocQuery.Proofs.StableSort
import DocQuery.Proofs.SortPaths
import DocQuery.Proofs.Pipeline
import DocQuery.Proofs.SortedFind
import DocQuery.Proofs.Readings
import DocQuery.Proofs.Planning
import DocQuery.Proofs.EntryReaders
import DocQuery.Proofs.Acceptance
import DocQuery.Proofs.Writing
import DocQuery.Proofs.RoundTrip
import DocQuery.Proofs.Interchange
import DocQuery.Proofs.Reordering
import DocQuery.Proofs.Compilations
import DocQuery.Proofs.RootDocuments
import DocQuery.Proofs.JoinedPaths
import DocQuery.Proofs.ArrayElements
import DocQuery.Proofs.Polarity
import DocQuery.Proofs.Rounding
import DocQuery.Proofs.Amounts
import DocQuery.Proofs.ExactComparison
import DocQuery.Proofs.Complements
import DocQuery.Proofs.Rewrites
import DocQuery.Proofs.DoubleOrder
import DocQuery.Proofs.RangeOperators
import DocQuery.Proofs.IdenticalValues
import DocQuery.Proofs.EqualValues
import DocQuery.Proofs.SetOperators
import DocQuery.Proofs.PathGrammar
import DocQuery.Proofs.PathParts
import DocQuery.Proofs.FieldForests
import DocQuery.Proofs.FieldLists
import DocQuery.Proofs.BuilderSteps
import DocQuery.Proofs.Rerooting
import DocQuery.Proofs.TemplateWriting
import DocQuery.Proofs.NestedNames
import DocQuery.Proofs.FlatKeys
import DocQuery.Proofs.CacheGrowth
import DocQuery.Proofs.StringOrder
import DocQuery.Proofs.ForestShape
import DocQuery.Proofs.OwnKeys
