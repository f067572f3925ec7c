import GridRows.Grouping
import GridRows.Sql.Query

/-!
# Plans

The select statement that answers a request.  While a group level is left to reveal, its column and
the aggregates are selected and grouped by; otherwise every column is.  Expanded levels are pinned to
their keys, filters follow, and the window sets limit and offset.
-/

namespace GridRows

open Json (Value)
open Sql (Expr BinaryOperator SelectItem Query)

/-! ## Filters as expressions -/

/-- The operator and the pattern of a text test. -/
def TextTest.predicate (test : TextTest) (operand : String) : BinaryOperator × String :=
  match test with
  | .equals => (.eq, operand)
  | .notEqual => (.neq, operand)
  | .contains => (.like, "%" ++ operand ++ "%")
  | .notContains => (.notLike, "%" ++ operand ++ "%")
  | .startsWith => (.like, operand ++ "%")
  | .endsWith => (.like, "%" ++ operand)

/-- The operator of a comparison. -/
def Comparison.operator : Comparison → BinaryOperator
  | .equals => .eq
  | .notEqual => .neq
  | .greaterThan => .gt
  | .greaterThanOrEqual => .gte
  | .lessThan => .lt
  | .lessThanOrEqual => .lte

/-- A comparison of a column with a value. -/
def compareColumn (column : String) (op : BinaryOperator) (value : Value) : Expr :=
  .binary op (.column column) (.literal value)

/-- The predicate of a filter on a column; one that is not supported holds of every row. -/
def Filter.toExpr (column : String) : Filter → Expr
  | .text test operand =>
    let (op, pattern) := test.predicate operand
    compareColumn column op (.string pattern)
  | .number comparison operand => compareColumn column comparison.operator (.number operand)
  | .inRange low high =>
    .nested (.binary .and (compareColumn column .gte (.number low))
      (compareColumn column .lte (.number high)))
  | .unsupported .. => .always

/-! ## Clauses -/

/-- The aggregate of a value column, named for the column. -/
def ValueColumn.selectItem (c : ValueColumn) : SelectItem :=
  ⟨.aggregate c.aggregate (.column c.field), some c.field⟩

/-- The predicate that pins an expanded level to its key. -/
def GroupColumn.pin (c : GroupColumn) (key : String) : Expr :=
  .binary .eq (.asText (.column c.field)) (.literal (.string key))

namespace Request

/-- The group column that is revealed, if any. -/
def revealed? (r : Request) : Option GroupColumn := r.grouping.next? r.groupColumns

/-- What is selected. -/
def selectClause (r : Request) : List SelectItem :=
  match r.revealed? with
  | some column => ⟨.column column.field, none⟩ :: r.valueColumns.map (·.selectItem)
  | none => []

/-- The predicates: expanded levels first, then the filters in their order. -/
def filterClause (r : Request) : List Expr :=
  List.zipWith GroupColumn.pin r.groupColumns r.groupKeys ++
    r.filters.map fun entry => entry.2.toExpr entry.1

/-- What is grouped by. -/
def groupClause (r : Request) : List Expr := (r.revealed?.map fun c => .column c.field).toList

/-- The sort items, without columns below the revealed level. -/
def orderClause (r : Request) : List SortItem :=
  let sortable := r.grouping.sortableIds r.groupColumns
  r.sorts.filter fun item => !r.grouping.isGrouping || sortable.contains item.column

/-- The columns whose filters are not supported. -/
def ignoredFilters (r : Request) : List String :=
  (r.filters.filter (·.2.isUnsupported)).map (·.1)

end Request

/-- The statement of a valid request, and what was left out of it. -/
structure Plan where
  query : Query
  grouping : GroupingDepth
  /-- The columns whose filters could not be applied. -/
  ignoredFilters : List String

/-- Plans the statement of a request, which is validated first. -/
def Request.plan (r : Request) : Except Invalid Plan := do
  r.validate
  let window ← r.window
  return {
    query := {
      select := r.selectClause
      table := r.table
      filters := r.filterClause
      groupBy := r.groupClause
      orderBy := r.orderClause
      limit := some window.limit
      offset := some window.offset }
    grouping := r.grouping
    ignoredFilters := r.ignoredFilters }

end GridRows
