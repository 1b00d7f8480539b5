import SqlMapper.Calendar.Basic
import SqlMapper.Calendar.Iso
import SqlMapper.Calendar.Loose
import SqlMapper.Database.AccessPath
import SqlMapper.Database.Aggregate
import SqlMapper.Database.Builtin
import SqlMapper.Database.Characters
import SqlMapper.Database.Clause
import SqlMapper.Database.Context
import SqlMapper.Database.Datum
import SqlMapper.Database.Define
import SqlMapper.Database.Estimate
import SqlMapper.Database.Evaluate
import SqlMapper.Database.Execute
import SqlMapper.Database.ForeignKey
import SqlMapper.Database.Format
import SqlMapper.Database.FrameWalk
import SqlMapper.Database.JoinOrder
import SqlMapper.Database.Json
import SqlMapper.Database.Moment
import SqlMapper.Database.Numeral
import SqlMapper.Database.Operators
import SqlMapper.Database.Parse.Basic
import SqlMapper.Database.Parse.Depth
import SqlMapper.Database.Parse.Query
import SqlMapper.Database.Parse.Statement
import SqlMapper.Database.Plan
import SqlMapper.Database.Planner
import SqlMapper.Database.RealText
import SqlMapper.Database.Resolve.Query
import SqlMapper.Database.Resolve.Scope
import SqlMapper.Database.Resolve.Write
import SqlMapper.Database.Run
import SqlMapper.Database.Running
import SqlMapper.Database.Runtime
import SqlMapper.Database.Scalar
import SqlMapper.Database.Schema
import SqlMapper.Database.Sorting
import SqlMapper.Database.Store
import SqlMapper.Database.Syntax
import SqlMapper.Database.TableFunction
import SqlMapper.Database.Token
import SqlMapper.Database.Window
import SqlMapper.Dialect.Basic
import SqlMapper.Dialect.ColumnType
import SqlMapper.Dialect.Url
import SqlMapper.Fault
import SqlMapper.Json.Doc
import SqlMapper.Model.Catalog
import SqlMapper.Model.Validate
import SqlMapper.Model.Zero
import SqlMapper.Number.BinaryRational
import SqlMapper.Number.Decimal
import SqlMapper.Number.FloatText
import SqlMapper.Number.Shortest
import SqlMapper.Query.Basic
import SqlMapper.Query.Build
import SqlMapper.Query.Clause
import SqlMapper.Query.Ddl
import SqlMapper.Query.Hook
import SqlMapper.Query.Modify
import SqlMapper.Query.Render
import SqlMapper.Query.Select
import SqlMapper.Rows.Map
import SqlMapper.Rows.Plan
import SqlMapper.Schema.ColumnValue
import SqlMapper.Schema.Relation
import SqlMapper.Schema.Spec
import SqlMapper.Schema.Table
import SqlMapper.Service.Connections
import SqlMapper.Service.Decode
import SqlMapper.Service.Dialects
import SqlMapper.Service.Encode
import SqlMapper.Service.Inspect
import SqlMapper.Service.Queries
import SqlMapper.Service.Request
import SqlMapper.Service.Rows
import SqlMapper.Service.Run
import SqlMapper.Service.Session
import SqlMapper.Service.TypeSpec
import SqlMapper.Session.Alias
import SqlMapper.Session.Basic
import SqlMapper.Session.Scan
import SqlMapper.Session.Write
import SqlMapper.Sql.Writer
import SqlMapper.Text.Case
import SqlMapper.Text.CaseData
import SqlMapper.Text.Digit
import SqlMapper.Text.Display
import SqlMapper.Text.Naming
import SqlMapper.Text.PrintData
import SqlMapper.Text.Surrogate
import SqlMapper.Text.Template
import SqlMapper.Text.Utf8
import SqlMapper.Value.Annotation
import SqlMapper.Value.Basic
import SqlMapper.Value.Coerce
import SqlMapper.Value.Equal
import SqlMapper.Value.Json
import SqlMapper.Value.OfJson
import SqlMapper.Value.Path
import SqlMapper.Value.SetOrder
import SqlMapper.Value.Show
import SqlMapper.Proofs.Except
import SqlMapper.Proofs.WhereClause
import SqlMapper.Proofs.RecordedFault
import SqlMapper.Proofs.InlineLiterals
import SqlMapper.Proofs.JoinTree
import SqlMapper.Proofs.TransactionChain
import SqlMapper.Proofs.InsertWriteBack
import SqlMapper.Proofs.RowRoundTrip
import SqlMapper.Proofs.JoinAliases
import SqlMapper.Proofs.ResultRouting
import SqlMapper.Proofs.JoinedSelect
import SqlMapper.Proofs.RelationLoading
import SqlMapper.Proofs.RowMapping
import SqlMapper.Proofs.ChildAttachment
import SqlMapper.Proofs.JsonNul
import SqlMapper.Proofs.QuotedIdentifiers
import SqlMapper.Proofs.UpdateAssignments
import SqlMapper.Proofs.InsertColumns
import SqlMapper.Proofs.NestedQueries
import SqlMapper.Proofs.TemplateTokens
import SqlMapper.Proofs.RelationPaths
import SqlMapper.Proofs.StringLiterals
import SqlMapper.Proofs.AppendOnly
import SqlMapper.Proofs.CountQuery
import SqlMapper.Proofs.KeyCondition
import SqlMapper.Proofs.BaseTypes
import SqlMapper.Proofs.FieldMetadata
import SqlMapper.Proofs.EmbeddedColumns
import SqlMapper.Proofs.Numerals
import SqlMapper.Proofs.ShortestDigits
import SqlMapper.Proofs.LiteralDenotation
