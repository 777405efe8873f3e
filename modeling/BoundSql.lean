import BoundSql.Bindings
import BoundSql.Column
import BoundSql.Command.Chain
import BoundSql.Command.Modify
import BoundSql.Command.Run
import BoundSql.Condition.Argument
import BoundSql.Condition.Basic
import BoundSql.Condition.Filter
import BoundSql.Condition.Json
import BoundSql.Condition.Template
import BoundSql.Decimal.Double
import BoundSql.Decimal.Shortest
import BoundSql.Decimal.Single
import BoundSql.Decimal.Text
import BoundSql.Dialect
import BoundSql.Error
import BoundSql.Json.Basic
import BoundSql.Json.Parse
import BoundSql.Json.Reader
import BoundSql.Json.Same
import BoundSql.Json.Text
import BoundSql.Proofs.AssignmentLists
import BoundSql.Proofs.BoundValues
import BoundSql.Proofs.CanonicalConditions
import BoundSql.Proofs.ClosedGroups
import BoundSql.Proofs.CollectedConditions
import BoundSql.Proofs.ConditionTree
import BoundSql.Proofs.CountQueries
import BoundSql.Proofs.CutTexts
import BoundSql.Proofs.DescribedConditions
import BoundSql.Proofs.DistinctNumerals
import BoundSql.Proofs.DistinctTexts
import BoundSql.Proofs.EmptyOperands
import BoundSql.Proofs.EntryForms
import BoundSql.Proofs.EntryGrammar
import BoundSql.Proofs.FetchedRows
import BoundSql.Proofs.FilledPlaceholders
import BoundSql.Proofs.FreshNames
import BoundSql.Proofs.GuardedCommands
import BoundSql.Proofs.JoinedAliases
import BoundSql.Proofs.JoinedTables
import BoundSql.Proofs.NullTests
import BoundSql.Proofs.PlainNames
import BoundSql.Proofs.QuietCleanup
import BoundSql.Proofs.QuotedLiterals
import BoundSql.Proofs.QuotedNames
import BoundSql.Proofs.ReadableComparisons
import BoundSql.Proofs.ReadableConditions
import BoundSql.Proofs.ReadableProjections
import BoundSql.Proofs.ReferencedNames
import BoundSql.Proofs.RenderedNames
import BoundSql.Proofs.ReportedCounts
import BoundSql.Proofs.RoundedDoubles
import BoundSql.Proofs.SameForm
import BoundSql.Proofs.ScopedPaths
import BoundSql.Proofs.SeparateClauses
import BoundSql.Proofs.Sessions
import BoundSql.Proofs.ShownNames
import BoundSql.Proofs.ShownStatements
import BoundSql.Proofs.SinglePass
import BoundSql.Proofs.SortTerms
import BoundSql.Proofs.SpelledNames
import BoundSql.Proofs.TransactionCourse
import BoundSql.Proofs.Unquoting
import BoundSql.Proofs.VacuousConditions
import BoundSql.Proofs.ValueIndependence
import BoundSql.Proofs.WholePlaceholders
import BoundSql.Query.Clauses
import BoundSql.Query.Select
import BoundSql.Query.Tables
import BoundSql.Record
import BoundSql.Row.Answer
import BoundSql.Row.Basic
import BoundSql.Row.Report
import BoundSql.Selected
import BoundSql.Session.Client
import BoundSql.Session.Script
import BoundSql.Session.Transaction
import BoundSql.Session.World
import BoundSql.Settings
import BoundSql.Template
import BoundSql.Text.Blank
import BoundSql.Text.Quoted
import BoundSql.Text.Word
