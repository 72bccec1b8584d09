import TypedOperations.Number.Decimal
import TypedOperations.Text.Identifier
import TypedOperations.Text.Printable.Table
import TypedOperations.Text.Quoted
import TypedOperations.Entries
import TypedOperations.Json.Basic
import TypedOperations.Json.Reader
import TypedOperations.Layout.Docstring
import TypedOperations.Layout.Step
import TypedOperations.Naming.Singular
import TypedOperations.Naming.WordCase
import TypedOperations.Options
import TypedOperations.Language.Document
import TypedOperations.Language.Token
import TypedOperations.Language.Parser
import TypedOperations.Language.Printer
import TypedOperations.Language.Typename
import TypedOperations.Schema.Basic
import TypedOperations.Schema.Introspection
import TypedOperations.Language.Sites
import TypedOperations.Schema.Build
import TypedOperations.Schema.Definitions
import TypedOperations.Schema.Validity
import TypedOperations.Fault
import TypedOperations.Selection.Basic
import TypedOperations.Selection.Resolve
import TypedOperations.Selection.Conditions
import TypedOperations.Selection.Identity
import TypedOperations.Selection.Inline
import TypedOperations.Selection.Records
import TypedOperations.Declaration.ElementMap
import TypedOperations.Declaration.Property
import TypedOperations.Declaration.ValueExpression
import TypedOperations.Declaration.Basic
import TypedOperations.Declaration.Build
import TypedOperations.Declaration.Render
import TypedOperations.Header.Template
import TypedOperations.Module
import TypedOperations.Validation.Input
import TypedOperations.Validation.Overlap
import TypedOperations.Validation.Rules
import TypedOperations.Snapshot.Equality
import TypedOperations.Snapshot.Store
import TypedOperations.Wire
import TypedOperations.Files.Load
import TypedOperations.Command.Arguments
import TypedOperations.Command.Generate
import TypedOperations.Archive.Container
import TypedOperations.Main
import TypedOperations.Proofs.Entries
import TypedOperations.Proofs.Selection.Spreading
import TypedOperations.Proofs.Selection.Walk
import TypedOperations.Proofs.Selection.Grouping
import TypedOperations.Proofs.Outcome
import TypedOperations.Proofs.Selection.Passes
import TypedOperations.Proofs.Selection.Resolving
import TypedOperations.Proofs.Execution.Document
import TypedOperations.Proofs.Execution.Agreement
import TypedOperations.Proofs.Selection.Fitting
import TypedOperations.Proofs.Selection.Views
import TypedOperations.Proofs.Selection.Cases
import TypedOperations.Proofs.Selection.Merging
import TypedOperations.Proofs.Declaration.Classes
import TypedOperations.Proofs.Selection.Describing
import TypedOperations.Proofs.Declaration.Properties
import TypedOperations.Proofs.Declaration.References
import TypedOperations.Proofs.Declaration.Annotations
import TypedOperations.Proofs.Declaration.Requests
import TypedOperations.Proofs.Selection.DepthFirst
import TypedOperations.Proofs.Selection.Collecting
import TypedOperations.Proofs.Selection.Nesting
import TypedOperations.Proofs.Declaration.Faults
import TypedOperations.Proofs.Declaration.Nested
import TypedOperations.Proofs.Declaration.Termination
import TypedOperations.Proofs.Declaration.InternalFaults
import TypedOperations.Proofs.Naming.Distinct
import TypedOperations.Proofs.Declaration.Members
import TypedOperations.Proofs.Selection.Identity
import TypedOperations.Proofs.Selection.WellFormed
import TypedOperations.Proofs.Language.Typename
import TypedOperations.Proofs.Selection.Typename
import TypedOperations.Proofs.Selection.TypesUsed
import TypedOperations.Proofs.Snapshot.Heap
import TypedOperations.Proofs.Snapshot.Sharing
import TypedOperations.Proofs.Layout.LineTree
import TypedOperations.Proofs.Layout.Outline
import TypedOperations.Proofs.Source.Strings
import TypedOperations.Proofs.Expression.Syntax
import TypedOperations.Proofs.Expression.Reading
import TypedOperations.Proofs.Expression.Meaning
import TypedOperations.Proofs.Expression.Terms
import TypedOperations.Proofs.Declaration.ElementMap
import TypedOperations.Proofs.Declaration.Factories
import TypedOperations.Proofs.Source.Descriptions
import TypedOperations.Proofs.Expression.Types
import TypedOperations.Proofs.Options
import TypedOperations.Proofs.Naming.Singular
import TypedOperations.Proofs.Declaration.TypeTexts
import TypedOperations.Proofs.Source.Numeral
import TypedOperations.Proofs.Expression.Literals
import TypedOperations.Proofs.Declaration.ValueTexts
import TypedOperations.Proofs.Selection.FewerTypes
import TypedOperations.Proofs.Selection.Conditions
import TypedOperations.Proofs.Selection.Splicing
import TypedOperations.Proofs.Wire
import TypedOperations.Proofs.Naming.Numbering
import TypedOperations.Proofs.Naming.WordStarts
import TypedOperations.Proofs.Naming.Inflection
import TypedOperations.Proofs.Declaration.ClassNames
