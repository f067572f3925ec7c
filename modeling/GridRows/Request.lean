import GridRows.Filter
import GridRows.Page
import GridRows.Text.Blank

/-!
# Row requests

What a data grid asks for: the rows of one table inside a window, filtered, sorted, and grouped
level by level along the group columns, of which the first few are already expanded to a key.
-/

namespace GridRows

/-- The direction of a sort. -/
inductive SortDirection where
  | asc
  | desc
  deriving DecidableEq

/-- The word for the direction, on the wire and in a statement. -/
def SortDirection.name : SortDirection → String
  | .asc => "asc"
  | .desc => "desc"

/-- The direction with the given name. -/
def SortDirection.ofName? : String → Option SortDirection
  | "asc" => some .asc
  | "desc" => some .desc
  | _ => none

/-- A level of the grouping hierarchy. -/
structure GroupColumn where
  id : String
  field : String
  deriving DecidableEq

/-- A column that is aggregated in grouped rows. -/
structure ValueColumn where
  field : String
  /-- The name of the aggregate function, used as given. -/
  aggregate : String
  deriving DecidableEq

/-- Whether the field or the aggregate function is missing. -/
def ValueColumn.isIncomplete (c : ValueColumn) : Bool := c.field.isEmpty || c.aggregate.isEmpty

/-- One column to sort by. -/
structure SortItem where
  column : String
  direction : SortDirection
  deriving DecidableEq

/-- A request for one page of rows. -/
structure Request where
  table : String
  /-- The grouping hierarchy, outermost level first. -/
  groupColumns : List GroupColumn
  /-- The keys of the levels already expanded; each belongs to the group column at its place. -/
  groupKeys : List String
  valueColumns : List ValueColumn
  /-- The filters by column, in the order of the request; each column occurs once. -/
  filterModel : Option (List (String × Filter))
  sortModel : Option (List SortItem)
  startRow : Int
  /-- The first row after the page. -/
  endRow : Int
  deriving DecidableEq

namespace Request

/-- The filters by column; none without a filter model. -/
def filters (r : Request) : List (String × Filter) := r.filterModel.getD []

/-- The columns to sort by; none without a sort model. -/
def sorts (r : Request) : List SortItem := r.sortModel.getD []

/-- The window of rows that is asked for. -/
def window (r : Request) : Except Invalid PageWindow := PageWindow.ofBounds r.startRow r.endRow

/-- Rejects a request from which no statement can be made, for the first reason in this order. -/
def validate (r : Request) : Except Invalid Unit := do
  if Text.allBlank r.table then throw .noTable
  if r.groupColumns.length < r.groupKeys.length then
    throw (.surplusKeys r.groupKeys.length r.groupColumns.length)
  if let some column := r.groupColumns.find? (·.field.isEmpty) then
    throw (.emptyGroupField column.id)
  if let some column := r.valueColumns.find? (·.isIncomplete) then
    throw (.incompleteAggregate column.field)
  let _ ← r.window

end Request

end GridRows
