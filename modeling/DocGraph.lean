import DocGraph.Definition.Basic
import DocGraph.Definition.Dump
import DocGraph.Definition.Field
import DocGraph.Definition.Reader
import DocGraph.Diagnostic
import DocGraph.Failure
import DocGraph.Graph.Fault
import DocGraph.Graph.Generate
import DocGraph.Graph.Statement
import DocGraph.Json.Basic
import DocGraph.Json.Reader
import DocGraph.Json.Writer
import DocGraph.Main
import DocGraph.Mapping.Basic
import DocGraph.Mapping.Build
import DocGraph.Number.Binary64
import DocGraph.Number.Literal
import DocGraph.Number.Power
import DocGraph.Number.Shortest
import DocGraph.Number.Spelling
import DocGraph.Path.Basic
import DocGraph.Path.Cache
import DocGraph.Run.Arguments
import DocGraph.Run.Command
import DocGraph.Run.Config
import DocGraph.Run.Files
import DocGraph.Run.Load
import DocGraph.Run.Pipeline
import DocGraph.Run.Service
import DocGraph.Schema.Element
import DocGraph.Schema.Identifier
import DocGraph.Schema.Merge
import DocGraph.Schema.Statement
import DocGraph.Schema.ValueType
import DocGraph.Text.Blank
import DocGraph.Text.Case
import DocGraph.Text.Digit
import DocGraph.Text.Printable
import DocGraph.Text.Quoted
import DocGraph.Text.Split
import DocGraph.Text.Utf8
import DocGraph.Time.Calendar
import DocGraph.Time.Pattern
import DocGraph.Time.Reading
import DocGraph.Transform.Basic
import DocGraph.Transform.Coercion
import DocGraph.Transform.Registry
import DocGraph.Yaml.Fault
import DocGraph.Yaml.Node
import DocGraph.Yaml.Reader
import DocGraph.Yaml.Scalar
import DocGraph.Yaml.Tag
import DocGraph.Yaml.Token
import DocGraph.Yaml.Value
import DocGraph.Proofs.Outcome
import DocGraph.Proofs.Graph.Step
import DocGraph.Proofs.Graph.Batch
import DocGraph.Proofs.Graph.Upsert
import DocGraph.Proofs.Graph.Portion
import DocGraph.Proofs.Run.Isolation
import DocGraph.Proofs.Graph.FirstOccurrence
import DocGraph.Proofs.Graph.Interrupted
import DocGraph.Proofs.Number.Printed
import DocGraph.Proofs.Graph.Readback
import DocGraph.Proofs.Graph.Record
import DocGraph.Proofs.Graph.Written
import DocGraph.Proofs.Graph.Origin
import DocGraph.Proofs.Graph.Breakdown
import DocGraph.Proofs.Graph.Single
import DocGraph.Proofs.Schema.Declaration
import DocGraph.Proofs.Run.Guard
import DocGraph.Proofs.Graph.LiteralType
import DocGraph.Proofs.Run.Agreement
import DocGraph.Proofs.Path.Segments
import DocGraph.Proofs.Path.NormalForm
import DocGraph.Proofs.Path.Addressing
import DocGraph.Proofs.Path.Transparency
import DocGraph.Proofs.Run.Memory
import DocGraph.Proofs.Schema.IndexLength
import DocGraph.Proofs.Schema.IndexName
import DocGraph.Proofs.Schema.Merging
import DocGraph.Proofs.Schema.Removal
import DocGraph.Proofs.Schema.Summary
import DocGraph.Proofs.Graph.Reached
import DocGraph.Proofs.Graph.UpsertColumns
import DocGraph.Proofs.Graph.ColumnList
import DocGraph.Proofs.Graph.AllowedTypes
import DocGraph.Proofs.Schema.Declarable
import DocGraph.Proofs.Mapping.WellFormed
import DocGraph.Proofs.Mapping.Element
import DocGraph.Proofs.Mapping.StrayBracket
import DocGraph.Proofs.Mapping.Parameters
import DocGraph.Proofs.Graph.Finite
import DocGraph.Proofs.Definition.Dump
import DocGraph.Proofs.Graph.Alike
import DocGraph.Proofs.Path.Composition
import DocGraph.Proofs.Graph.Unread
import DocGraph.Proofs.Graph.KeyOrder
import DocGraph.Proofs.Json.Keyed
import DocGraph.Proofs.Json.Written
import DocGraph.Proofs.Text.Utf8
import DocGraph.Proofs.Run.Asking
import DocGraph.Proofs.Run.EntryPoints
import DocGraph.Proofs.Yaml.Scanning
import DocGraph.Proofs.Yaml.Reading
import DocGraph.Proofs.Yaml.Building
import DocGraph.Proofs.Run.Loading
import DocGraph.Proofs.Graph.NumericKey
import DocGraph.Proofs.Text.Blank
import DocGraph.Proofs.Transform.Tidy
import DocGraph.Proofs.Text.Split
import DocGraph.Proofs.Time.Matching
import DocGraph.Proofs.Time.Timestamp
import DocGraph.Proofs.Transform.Rejoin
import DocGraph.Proofs.Number.Nearest
import DocGraph.Proofs.Number.WholeText
import DocGraph.Proofs.Transform.Coercion
import DocGraph.Proofs.Transform.Price
import DocGraph.Proofs.Graph.ColumnValues
import DocGraph.Proofs.Graph.IntegerRange
import DocGraph.Proofs.Text.LineBreak
import DocGraph.Proofs.Yaml.Wording
import DocGraph.Proofs.Yaml.OneLine
import DocGraph.Proofs.Run.Wording
import DocGraph.Proofs.Definition.Texts
import DocGraph.Proofs.Mapping.Texts
import DocGraph.Proofs.Time.Texts
import DocGraph.Proofs.Graph.Texts
import DocGraph.Proofs.Json.OneLine
import DocGraph.Proofs.Run.Shown
import DocGraph.Proofs.Run.DiagnosticLine
