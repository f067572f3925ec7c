import GridRows.Request

/-!
# Writing row requests

The wire form of a request with all its fields, in their order; an absent filter or sort model is
`null`.
-/

namespace GridRows

open Json (Value Number)

/-- The group column as a JSON value. -/
def GroupColumn.toJson (c : GroupColumn) : Value :=
  .object [("id", .string c.id), ("field", .string c.field)]

/-- The value column as a JSON value. -/
def ValueColumn.toJson (c : ValueColumn) : Value :=
  .object [("field", .string c.field), ("aggFunc", .string c.aggregate)]

/-- The sort item as a JSON value. -/
def SortItem.toJson (i : SortItem) : Value :=
  .object [("colId", .string i.column), ("sort", .string i.direction.name)]

/-- A row bound as a JSON value; requests that are read have bounds of 64 bits. -/
def rowToJson (n : Int) : Value := ((Number.ofInt? n).map .number).getD .null

/-- The request as a JSON value. -/
def Request.toJson (r : Request) : Value :=
  let filterModel := r.filterModel.map fun model => model.map fun entry => (entry.1, entry.2.toJson)
  let sortModel := r.sortModel.map fun items => items.map SortItem.toJson
  .object [
    ("tableName", .string r.table),
    ("rowGroupCols", .array (r.groupColumns.map GroupColumn.toJson)),
    ("groupKeys", .array (r.groupKeys.map .string)),
    ("valueCols", .array (r.valueColumns.map ValueColumn.toJson)),
    ("filterModel", (filterModel.map .object).getD .null),
    ("sortModel", (sortModel.map .array).getD .null),
    ("startRow", rowToJson r.startRow),
    ("endRow", rowToJson r.endRow)]

/-- The request as compact JSON text. -/
def Request.text (r : Request) : String := r.toJson.text

end GridRows
