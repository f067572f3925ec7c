import GridRows.Proofs.Sql.Template
import GridRows.Config.Reader
import GridRows.DuckDb.Value
import GridRows.Postgres.Session
import GridRows.Request.Printer
import GridRows.Request.Reader
import GridRows.Rows
import GridRows.Proofs.Independence
import GridRows.Proofs.InlineSafety
import GridRows.Proofs.Sql.Lexemes
import GridRows.Proofs.Sql.Grammar
import GridRows.Proofs.Sql.Reading
import GridRows.Proofs.Readability
import GridRows.Proofs.Sql.Shape
import GridRows.Proofs.Serving
import GridRows.Proofs.Registry
import GridRows.Proofs.Paging
import GridRows.Proofs.Sql.Clauses
import GridRows.Proofs.Clauses
import GridRows.Proofs.DrillDown
import GridRows.Proofs.Json.Numerals
import GridRows.Proofs.Layering
import GridRows.Proofs.Json.Reading
import GridRows.Proofs.Json.Record
import GridRows.Proofs.Json.Mapping
import GridRows.Proofs.FilterModel
import GridRows.Proofs.RoundTrip
import GridRows.Proofs.FilterGrammar
import GridRows.Proofs.TextTests
import GridRows.Proofs.OutputColumns
import GridRows.Proofs.Validation
import GridRows.Proofs.FilterClauses
import GridRows.Proofs.Postgres.Placeholders
import GridRows.Proofs.Postgres.Numeric
import GridRows.Proofs.Postgres.Numbers
import GridRows.Proofs.SortScope
import GridRows.Proofs.DuckDb.Leaves
import GridRows.Proofs.Postgres.Cells
import GridRows.Proofs.Number.Exact
import GridRows.Proofs.Json.Literal
import GridRows.Proofs.Operands
import GridRows.Proofs.Json.Spelling
import GridRows.Proofs.SpelledRequest
import GridRows.Proofs.Spelling
import GridRows.Proofs.DuckDb.Binding
import GridRows.Proofs.Sql.Literals
import GridRows.Proofs.Text.Words
import GridRows.Proofs.Postgres.Settings
