import GridRows.Sql.Dialect
import GridRows.Sql.Query

/-!
# Rendering

The text of a statement, written from left to right.  A value either goes into the text or is bound,
and then a placeholder stands for it, whose place is the number of values bound before it.
-/

namespace GridRows.Sql

open Json (Value)

/-- How values reach the text of a statement. -/
inductive RenderMode where
  /-- Values are written into the text. -/
  | inline
  /-- Values are replaced by placeholders and bound separately. -/
  | parameterized
  deriving DecidableEq

/-- The text of a statement, and the values bound to its placeholders. -/
structure Rendered where
  sql : String
  params : List Value

/-- Writes a text; the values bound so far travel along. -/
abbrev Writer := StateM (Array Value)

/-- Writes a value, or binds it and writes its placeholder. -/
def writeValue (d : Dialect) (mode : RenderMode) (v : Value) : Writer String := do
  match mode with
  | .inline => return d.literal v
  | .parameterized =>
    let bound ← get
    set (bound.push v)
    return d.placeholder bound.size v

/-- Writes an expression. -/
def Expr.write (d : Dialect) (mode : RenderMode) : Expr → Writer String
  | .column name => return name
  | .literal v => writeValue d mode v
  | .binary op left right => do
    let left ← left.write d mode
    let right ← right.write d mode
    return left ++ " " ++ op.spelling ++ " " ++ right
  | .nested inner => return "(" ++ (← inner.write d mode) ++ ")"
  | .aggregate function inner => return d.aggregate function (← inner.write d mode)
  | .asText inner => return d.castToText (← inner.write d mode)
  | .always => return "true"

/-- Writes a selected expression. -/
def SelectItem.write (d : Dialect) (mode : RenderMode) (i : SelectItem) : Writer String := do
  let expr ← i.expr.write d mode
  match i.label with
  | some name => return expr ++ " as " ++ name
  | none => return expr

/-- Writes a clause: a keyword before its parts with a separator between each two, or nothing. -/
def writeClause {α : Type} (keyword separator : String) (write : α → Writer String)
    (parts : List α) : Writer String :=
  if parts.isEmpty then return ""
  else return keyword ++ separator.intercalate (← parts.mapM write)

/-- Writes what is selected; nothing listed means every column. -/
def writeSelect (d : Dialect) (mode : RenderMode) (items : List SelectItem) : Writer String :=
  if items.isEmpty then return " select *"
  else writeClause " select " ", " (·.write d mode) items

/-- The text of a sort item. -/
def sortText (i : SortItem) : String := i.column ++ " " ++ i.direction.name

/-- A keyword and a count, if there is one. -/
def countText (keyword : String) : Option Nat → String
  | some n => keyword ++ toString n
  | none => ""

/-- Writes a statement: its clauses in fixed order, each with a blank before it. -/
def Query.write (d : Dialect) (mode : RenderMode) (q : Query) : Writer String := do
  let select ← writeSelect d mode q.select
  let filters ← writeClause " where " " and " (·.write d mode) q.filters
  let groups ← writeClause " group by " ", " (·.write d mode) q.groupBy
  let orders ← writeClause " order by " ", " (fun i => return sortText i) q.orderBy
  return select ++ " FROM " ++ q.table ++ filters ++ groups ++ orders ++
    countText " limit " q.limit ++ countText " offset " q.offset

/-- Writes a statement in a dialect. -/
def Query.render (d : Dialect) (mode : RenderMode) (q : Query) : Rendered :=
  let (sql, bound) := (q.write d mode).run #[]
  ⟨sql, bound.toList⟩

end GridRows.Sql
