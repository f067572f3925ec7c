import GridRows.Json.Printer

/-!
# Dialects

What differs from one database to another: how a value is written into a statement, how a value
that is bound separately is marked, and how an expression is turned into text.
-/

namespace GridRows.Sql

open Json (Value)

/-- A dialect of the statement language. -/
inductive Dialect where
  | mysql
  | duckdb
  | postgres
  deriving DecidableEq

/-- Every occurrence of `c` written twice. -/
def doubled (c : Char) (cs : List Char) : List Char :=
  cs.flatMap fun d => if d = c then [d, d] else [d]

/-- The parts, with a comma and a blank between each two. -/
def listed : List String → String
  | [] => ""
  | [part] => part
  | part :: rest => part ++ ", " ++ listed rest

namespace Dialect

/--
A text as a string literal.  MySQL puts it between double quotes and doubles backslashes and double
quotes; the others put it between single quotes and double those.
-/
def quote : Dialect → String → String
  | .mysql, s => String.ofList ('"' :: doubled '"' (doubled '\\' s.toList) ++ ['"'])
  | _, s => String.ofList ('\x27' :: doubled '\x27' s.toList ++ ['\x27'])

mutual

/--
A value as it is written into a statement.  Objects are written as their JSON text; so are arrays in
MySQL, while the others list their items.
-/
def literal (d : Dialect) : Value → String
  | .null => "NULL"
  | .boolean b => toString b
  | .number n => String.ofList n.text
  | .string s => d.quote s
  | .array items =>
    match d with
    | .mysql => d.quote (Value.array items).text
    | _ => listed (literals d items)
  | .object members => d.quote (Value.object members).text

/-- The items of an array as they are written into a statement. -/
def literals (d : Dialect) : List Value → List String
  | [] => []
  | v :: rest => d.literal v :: literals d rest

end

/--
The mark in place of the bound value at the given place, counted from zero.  PostgreSQL numbers the
marks from one and pins numbers and texts to the types that they are bound as.
-/
def placeholder : Dialect → Nat → Value → String
  | .postgres, index, .number _ => s!"${index + 1}::float8"
  | .postgres, index, .string _ => s!"${index + 1}::text"
  | .postgres, index, _ => s!"${index + 1}"
  | _, _, _ => "?"

/-- What follows an expression to turn it into text. -/
def castSuffix : Dialect → String
  | .postgres => "::text"
  | _ => ""

/-- An expression turned into text. -/
def castToText (d : Dialect) (expr : String) : String := expr ++ d.castSuffix

/-- An aggregate function of an expression. -/
def aggregate (_ : Dialect) (function expr : String) : String := function ++ "(" ++ expr ++ ")"

end Dialect

end GridRows.Sql
