import GridRows.Plan
import GridRows.Sql.Render

/-!
# Statements

A request compiled for a dialect: the text that a data source runs, the values bound to it, and the
filters that were left out.
-/

namespace GridRows

open Json (Value)
open Sql (Dialect RenderMode)

/-- A statement ready to run. -/
structure Statement where
  sql : String
  /-- The values of the placeholders, in their order; none in inline mode. -/
  params : List Value
  /-- The columns whose filters could not be applied. -/
  ignoredFilters : List String

/-- Writes the statement of a plan. -/
def Plan.statement (p : Plan) (d : Dialect) (mode : RenderMode) : Statement :=
  let rendered := p.query.render d mode
  ⟨rendered.sql, rendered.params, p.ignoredFilters⟩

namespace Request

/-- Compiles a request for a dialect. -/
def compile (r : Request) (d : Dialect) (mode : RenderMode) : Except Invalid Statement :=
  return (← r.plan).statement d mode

/-- The statement with its values bound separately. -/
def compileParameterized (r : Request) (d : Dialect) : Except Invalid Statement :=
  r.compile d .parameterized

/-- The text of the statement with its values written into it. -/
def inlineSql (r : Request) (d : Dialect) : Except Invalid String :=
  return (← r.compile d .inline).sql

/-- The statement as it is logged: inline, in the dialect of MySQL. -/
def rowsSql (r : Request) : Except Invalid String := r.inlineSql .mysql

end Request

end GridRows
