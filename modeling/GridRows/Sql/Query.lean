import GridRows.Json.Value
import GridRows.Request

/-!
# Select statements

The tree of a statement, before any dialect gives it a text.  Names are used as given; values stand
apart from them, as literals.
-/

namespace GridRows.Sql

open Json (Value)

/-- The operators between two expressions. -/
inductive BinaryOperator where
  | and
  | eq
  | neq
  | gt
  | gte
  | lt
  | lte
  | like
  | notLike
  deriving DecidableEq

/-- The spelling of an operator. -/
def BinaryOperator.spelling : BinaryOperator → String
  | .and => "and"
  | .eq => "="
  | .neq => "!="
  | .gt => ">"
  | .gte => ">="
  | .lt => "<"
  | .lte => "<="
  | .like => "like"
  | .notLike => "not like"

/-- An expression. -/
inductive Expr where
  | column (name : String)
  | literal (value : Value)
  | binary (op : BinaryOperator) (left right : Expr)
  /-- An expression in parentheses. -/
  | nested (inner : Expr)
  | aggregate (function : String) (inner : Expr)
  /-- An expression compared as text, whatever its type. -/
  | asText (inner : Expr)
  /-- The predicate that holds of every row. -/
  | always

/-- An expression that is selected. -/
structure SelectItem where
  expr : Expr
  /-- The name given to its column, if any. -/
  label : Option String

/-- A select statement. -/
structure Query where
  /-- What is selected; nothing listed means every column. -/
  select : List SelectItem
  table : String
  /-- The predicates that a row must meet, all of them. -/
  filters : List Expr
  groupBy : List Expr
  orderBy : List SortItem
  limit : Option Nat
  offset : Option Nat

/-- The literals of an expression in the order of its text. -/
def Expr.literals : Expr → List Value
  | .column _ => []
  | .literal v => [v]
  | .binary _ left right => left.literals ++ right.literals
  | .nested inner => inner.literals
  | .aggregate _ inner => inner.literals
  | .asText inner => inner.literals
  | .always => []

/-- The literals of a statement in the order of its text. -/
def Query.literals (q : Query) : List Value :=
  q.select.flatMap (·.expr.literals) ++ q.filters.flatMap (·.literals) ++
    q.groupBy.flatMap (·.literals)

end GridRows.Sql
