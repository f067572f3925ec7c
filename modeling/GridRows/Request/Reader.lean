import GridRows.Error
import GridRows.Json.Record
import GridRows.Request

/-!
# Reading row requests

The wire form of a request: which fields each record has, which of them may be absent, and how the
filter model keeps the order of its columns.
-/

namespace GridRows

open Json (Reader ReadError Mismatch Shape Field Value)

/-- What has been read of a group column. -/
structure GroupColumn.Draft where
  id : Option String := none
  field : Option String := none

/-- The wire form of a group column. -/
def GroupColumn.shape : Shape GroupColumn.Draft GroupColumn where
  title := "struct RowGroupCol"
  fields :=
    [⟨"id", true, (·.id.isSome), fun _ d => return { d with id := ← Reader.string }⟩,
     ⟨"field", true, (·.field.isSome), fun _ d => return { d with field := ← Reader.string }⟩]
  empty := {}
  finish d := return ⟨← Mismatch.require "id" d.id, ← Mismatch.require "field" d.field⟩

/-- What has been read of a value column. -/
structure ValueColumn.Draft where
  field : Option String := none
  aggregate : Option String := none

/-- The wire form of a value column. -/
def ValueColumn.shape : Shape ValueColumn.Draft ValueColumn where
  title := "struct ValueCol"
  fields :=
    [⟨"field", true, (·.field.isSome), fun _ d => return { d with field := ← Reader.string }⟩,
     ⟨"aggFunc", true, (·.aggregate.isSome),
      fun _ d => return { d with aggregate := ← Reader.string }⟩]
  empty := {}
  finish d := return ⟨← Mismatch.require "field" d.field, ← Mismatch.require "aggFunc" d.aggregate⟩

namespace SortDirection

/-- Takes the name of a direction. -/
def readName : Reader SortDirection := do
  let name ← Reader.stringAs "variant identifier"
  match ofName? name with
  | some direction => return direction
  | none => throw (.mismatch (.unknownVariant name ["asc", "desc"]))

/-- Takes a direction: its name, or an object whose only member is the name with `null`. -/
def read (depth : Nat) : Reader SortDirection := do
  match ← Reader.peek with
  | [] => throw .ended
  | '"' :: _ => readName
  | '\x7b' :: rest =>
    let _ ← Reader.descend depth
    set rest
    let direction ←
      match ← Reader.peek with
      | [] => throw .ended
      | '"' :: _ => readName
      | _ => throw .malformed
    Reader.colon
    Reader.unit
    match ← Reader.peek with
    | [] => throw .ended
    | '\x7d' :: rest =>
      set rest
      return direction
    | _ => throw .malformed
  | _ => throw .malformed

end SortDirection

/-- What has been read of a sort item. -/
structure SortItem.Draft where
  column : Option String := none
  direction : Option SortDirection := none

/-- The wire form of a sort item. -/
def SortItem.shape : Shape SortItem.Draft SortItem where
  title := "struct SortModelItem"
  fields :=
    [⟨"colId", true, (·.column.isSome), fun _ d => return { d with column := ← Reader.string }⟩,
     ⟨"sort", true, (·.direction.isSome),
      fun depth d => return { d with direction := ← SortDirection.read depth }⟩]
  empty := {}
  finish d := return ⟨← Mismatch.require "colId" d.column, ← Mismatch.require "sort" d.direction⟩

/-- What has been read of a filter; a part that may be `null` counts as read once it was there. -/
structure Filter.Draft where
  kind : Option String := none
  test : Option (Option String) := none
  operand : Option (Option Value) := none
  upper : Option (Option Value) := none

/-- The wire form of a filter. -/
def Filter.shape : Shape Filter.Draft Filter where
  title := "struct RawFilter"
  fields :=
    [⟨"filterType", true, (·.kind.isSome), fun _ d => return { d with kind := ← Reader.string }⟩,
     ⟨"type", false, (·.test.isSome),
      fun _ d => return { d with test := some (← Reader.optional Reader.string) }⟩,
     ⟨"filter", false, (·.operand.isSome),
      fun depth d => return { d with operand := some (← Reader.optional (Reader.value depth)) }⟩,
     ⟨"filterTo", false, (·.upper.isSome),
      fun depth d => return { d with upper := some (← Reader.optional (Reader.value depth)) }⟩]
  empty := {}
  finish d := do
    let kind ← Mismatch.require "filterType" d.kind
    match Filter.ofWire ⟨kind, d.test.join, d.operand.join, d.upper.join⟩ with
    | .ok filter => return filter
    | .error fault => throw (.rule fault.message)

namespace FilterModel

/-- Sets the filter of a column: a new column goes last, a known one keeps its place. -/
def insert (column : String) (filter : Filter) : List (String × Filter) → List (String × Filter)
  | [] => [(column, filter)]
  | (c, f) :: rest =>
    if c = column then (c, filter) :: rest else (c, f) :: insert column filter rest

/-- Takes the rest of a member of a filter model. -/
def member (depth : Nat) (column : String) (model : List (String × Filter)) :
    Reader (List (String × Filter)) := do
  Reader.colon
  return insert column (← Filter.shape.read depth) model

/-- Takes a filter model. -/
def read (depth : Nat) : Reader (List (String × Filter)) := do
  match ← Reader.peek with
  | '\x7b' :: rest =>
    let depth ← Reader.descend depth
    set rest
    Reader.objectRest (member depth) []
  | _ => Reader.wrongType "a map"

end FilterModel

/-- What has been read of a request. -/
structure Request.Draft where
  table : Option String := none
  groupColumns : Option (List GroupColumn) := none
  groupKeys : Option (List String) := none
  valueColumns : Option (List ValueColumn) := none
  filterModel : Option (Option (List (String × Filter))) := none
  sortModel : Option (Option (List SortItem)) := none
  startRow : Option Int := none
  endRow : Option Int := none

/-- The wire form of a request. -/
def Request.shape : Shape Request.Draft Request where
  title := "struct QueryRequest"
  fields :=
    [⟨"tableName", true, (·.table.isSome), fun _ d => return { d with table := ← Reader.string }⟩,
     ⟨"rowGroupCols", false, (·.groupColumns.isSome),
      fun depth d =>
        return { d with groupColumns := ← Reader.sequence depth GroupColumn.shape.read }⟩,
     ⟨"groupKeys", false, (·.groupKeys.isSome),
      fun depth d =>
        return { d with groupKeys := ← Reader.sequence depth fun _ => Reader.string }⟩,
     ⟨"valueCols", false, (·.valueColumns.isSome),
      fun depth d =>
        return { d with valueColumns := ← Reader.sequence depth ValueColumn.shape.read }⟩,
     ⟨"filterModel", false, (·.filterModel.isSome),
      fun depth d =>
        return { d with filterModel := some (← Reader.optional (FilterModel.read depth)) }⟩,
     ⟨"sortModel", false, (·.sortModel.isSome),
      fun depth d =>
        return { d with
          sortModel := some (← Reader.optional (Reader.sequence depth SortItem.shape.read)) }⟩,
     ⟨"startRow", true, (·.startRow.isSome), fun _ d => return { d with startRow := ← Reader.int64 }⟩,
     ⟨"endRow", true, (·.endRow.isSome), fun _ d => return { d with endRow := ← Reader.int64 }⟩]
  empty := {}
  finish d := return {
    table := ← Mismatch.require "tableName" d.table
    groupColumns := d.groupColumns.getD []
    groupKeys := d.groupKeys.getD []
    valueColumns := d.valueColumns.getD []
    filterModel := d.filterModel.join
    sortModel := d.sortModel.join
    startRow := ← Mismatch.require "startRow" d.startRow
    endRow := ← Mismatch.require "endRow" d.endRow }

/-- Reads a text as a request, without validating it. -/
def Request.read (text : String) : Except ReadError Request :=
  Reader.run (Request.shape.read Json.maxDepth) text

/-- Reads a text as a request and validates it. -/
def Request.readValid (text : String) : Except Error Request := do
  let r ← (Request.read text).mapError .json
  r.validate.mapError .validation
  return r

/-- Reads a text as a filter. -/
def Filter.read (text : String) : Except ReadError Filter :=
  Reader.run (Filter.shape.read Json.maxDepth) text

end GridRows
