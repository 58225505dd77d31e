import Tabular.Json
import Tabular.Sql.Statement
import Tabular.Relation.Join
import Tabular.Relation.Pattern
import Tabular.Relation.Restrict
import Tabular.Relation.Arrange
import Tabular.Relation.Reduce
import Tabular.Delimited.Document
import Tabular.Store.Basic
import Tabular.Store.Directory
import Tabular.Store.Memory
import Tabular.Answer
import Tabular.Session
import Tabular.Shell.Options
import Tabular.Shell.Terminal
import Tabular.Main
import Tabular.Proofs.Results
import Tabular.Proofs.Delimited.Document
import Tabular.Proofs.Delimited.Header
import Tabular.Proofs.Delimited.Plain
import Tabular.Proofs.Delimited.Rereading
import Tabular.Proofs.Delimited.Lines
import Tabular.Proofs.Relation.Restrict
import Tabular.Proofs.Sql.ClauseOrder
import Tabular.Proofs.Sql.Lexemes
import Tabular.Proofs.Sql.Names
import Tabular.Proofs.Sql.Phrases
import Tabular.Proofs.Sql.Tokens
import Tabular.Proofs.Store.Directory
import Tabular.Proofs.Store.Interchange
import Tabular.Proofs.Sql.Acceptance
import Tabular.Proofs.Sql.Similar
import Tabular.Proofs.Sql.LiteralShape
import Tabular.Proofs.Value
import Tabular.Proofs.Session.Insertion
import Tabular.Proofs.Session.Removal
import Tabular.Proofs.Relation.Pairings
import Tabular.Proofs.Session.Joining
import Tabular.Proofs.Session.Counting
import Tabular.Proofs.Relation.Reading
import Tabular.Proofs.Session.Carrying
import Tabular.Proofs.Session.Frame
import Tabular.Proofs.Delimited.OnePass
import Tabular.Proofs.Relation.Slots
import Tabular.Proofs.Relation.Grouping
import Tabular.Proofs.Session.Repetitions
import Tabular.Proofs.Store.Listing
import Tabular.Proofs.Sql.Spacing
import Tabular.Proofs.Session.Kinds
import Tabular.Proofs.Relation.Pattern
import Tabular.Proofs.Relation.Sorting
import Tabular.Proofs.Value.SortOrder
import Tabular.Proofs.Relation.Orientation
import Tabular.Proofs.Relation.Lookalikes
import Tabular.Proofs.Relation.DistinctCount
import Tabular.Proofs.Relation.Conditions
import Tabular.Proofs.Relation.Comparisons
import Tabular.Proofs.Sql.Calls
import Tabular.Proofs.Binary64.Counts
import Tabular.Proofs.Relation.Reductions
import Tabular.Proofs.Relation.Projection
import Tabular.Proofs.Store.Reach
import Tabular.Proofs.Delimited.BlankLines
import Tabular.Proofs.Relation.Places
import Tabular.Proofs.Sql.WellFormed
import Tabular.Proofs.Histories
import Tabular.Proofs.Drawing
