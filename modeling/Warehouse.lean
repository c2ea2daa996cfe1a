import Warehouse.Access
import Warehouse.Catalog.Cell
import Warehouse.Catalog.Exasol
import Warehouse.Catalog.Exasol.ColumnType
import Warehouse.Catalog.Fault
import Warehouse.Catalog.Listing
import Warehouse.Catalog.Query
import Warehouse.Catalog.Row
import Warehouse.Catalog.Snowflake
import Warehouse.Catalog.Synapse
import Warehouse.Catalog.Table
import Warehouse.Catalog.Teradata
import Warehouse.Column.Basic
import Warehouse.Column.Columns
import Warehouse.Column.Name
import Warehouse.Column.Named
import Warehouse.Column.Slice
import Warehouse.Datatype.Definition
import Warehouse.Datatype.Length
import Warehouse.Datatype.TypeName
import Warehouse.Dialect
import Warehouse.Dialogue
import Warehouse.Entity
import Warehouse.Entity.Description
import Warehouse.ErrorCode
import Warehouse.Failure
import Warehouse.Fields
import Warehouse.Identifier
import Warehouse.Library
import Warehouse.Log.Entry
import Warehouse.Log.Redaction
import Warehouse.Log.Setup
import Warehouse.Proofs.Catalog.CharacterLength
import Warehouse.Proofs.Catalog.ColumnRow
import Warehouse.Proofs.Catalog.DecimalCell
import Warehouse.Proofs.Catalog.Description
import Warehouse.Proofs.Catalog.ExasolDescription
import Warehouse.Proofs.Catalog.KeySequence
import Warehouse.Proofs.Catalog.Nullability
import Warehouse.Proofs.Catalog.Reading
import Warehouse.Proofs.Catalog.Recompilation
import Warehouse.Proofs.Catalog.Representation
import Warehouse.Proofs.Catalog.SnowflakeDescription
import Warehouse.Proofs.Catalog.Statements
import Warehouse.Proofs.Catalog.StoredDefault
import Warehouse.Proofs.Catalog.SynapseDescription
import Warehouse.Proofs.Catalog.Templates
import Warehouse.Proofs.Catalog.TeradataDescription
import Warehouse.Proofs.Catalog.TypeParameters
import Warehouse.Proofs.Catalog.WrittenType
import Warehouse.Proofs.Column.Distinctness
import Warehouse.Proofs.Column.Slice
import Warehouse.Proofs.Datatype.Acceptance
import Warehouse.Proofs.Datatype.Length
import Warehouse.Proofs.Datatype.Making
import Warehouse.Proofs.Datatype.Rendering
import Warehouse.Proofs.Datatype.Respelling
import Warehouse.Proofs.Dialogue.Computation
import Warehouse.Proofs.Dialogue.Exchange
import Warehouse.Proofs.Dialogue.Guarantee
import Warehouse.Proofs.Dialogue.Indifference
import Warehouse.Proofs.Dialogue.Logging
import Warehouse.Proofs.Dialogue.Steady
import Warehouse.Proofs.Entity.Description
import Warehouse.Proofs.Entity.Sameness
import Warehouse.Proofs.Entity.Specification
import Warehouse.Proofs.Failure
import Warehouse.Proofs.Log.Entry
import Warehouse.Proofs.Log.Redaction
import Warehouse.Proofs.Log.Secrecy
import Warehouse.Proofs.Log.Setup
import Warehouse.Proofs.Request.Acceptance
import Warehouse.Proofs.Request.Checks
import Warehouse.Proofs.Request.Clauses
import Warehouse.Proofs.Request.CreatedTable
import Warehouse.Proofs.Request.Distinction
import Warehouse.Proofs.Request.ForeignWords
import Warehouse.Proofs.Request.KeyAgreement
import Warehouse.Proofs.Request.KeyClause
import Warehouse.Proofs.Request.Naming
import Warehouse.Proofs.Request.Sameness
import Warehouse.Proofs.Session.Absence
import Warehouse.Proofs.Session.Composition
import Warehouse.Proofs.Session.Confinement
import Warehouse.Proofs.Session.Parts
import Warehouse.Proofs.Session.Representation
import Warehouse.Proofs.Session.Settings
import Warehouse.Proofs.Session.UnknownType
import Warehouse.Proofs.Settings.File
import Warehouse.Proofs.Sql.Lexing
import Warehouse.Proofs.Sql.Qualification
import Warehouse.Proofs.Sql.Quotation
import Warehouse.Proofs.Sql.Separation
import Warehouse.Proofs.Sql.Template
import Warehouse.Proofs.Table.Making
import Warehouse.Proofs.Text.Case
import Warehouse.Proofs.Text.Condensing
import Warehouse.Proofs.Text.DecimalNumeral
import Warehouse.Proofs.Text.Digit
import Warehouse.Proofs.Text.Doubling
import Warehouse.Proofs.Text.Expression
import Warehouse.Proofs.Text.Numeral
import Warehouse.Proofs.Text.Occurrence
import Warehouse.Proofs.Text.Parenthesis
import Warehouse.Proofs.Text.Separation
import Warehouse.Proofs.Text.Spelling
import Warehouse.Proofs.Text.Stripping
import Warehouse.Quoting
import Warehouse.Request.Fault
import Warehouse.Request.Schema
import Warehouse.Request.Statement
import Warehouse.Request.Table
import Warehouse.Session.Call
import Warehouse.Session.Step
import Warehouse.Settings.Basic
import Warehouse.Settings.DefaultDialect
import Warehouse.Settings.File
import Warehouse.Sql
import Warehouse.Table.Definition
import Warehouse.Table.Fault
import Warehouse.Table.Storage
import Warehouse.Text.Blank
import Warehouse.Text.Case
import Warehouse.Text.CaseTable
import Warehouse.Text.CharacterClass
import Warehouse.Text.Digit
import Warehouse.Text.Numeral
import Warehouse.Text.Occurrence
import Warehouse.Text.Parenthesis
import Warehouse.Value
