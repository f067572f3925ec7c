import GridRows.Sources

/-!
# Serving rows

One page of rows for a request: the request is checked, compiled and run, and the rows are cut to the
page.  A request that is refused reaches no data source.  If a statement fails, the answer is either
the failure or, where the configuration says so, an empty page with the text of the statement.
-/

namespace GridRows

open Json (Value Number)
open Sql (RenderMode)

/-- A page of rows as the grid receives it. -/
structure Response where
  rows : List Row
  /-- The number of rows on the page. -/
  lastRow : Nat
  success : Bool
  hasMore : Bool
  /-- The inline text of the statement, if it could not be executed. -/
  unexecuted : Option String
  notice : Option String
  /-- The columns whose filters could not be applied. -/
  ignoredFilters : List String

/-- The notice on a page whose statement could not be executed. -/
def fallbackNotice : String := "Using fallback mode - database connection failed"

namespace Response

/-- The page of a statement that was executed. -/
def ofPage (page : Page Row) (ignoredFilters : List String) : Response where
  rows := page.rows
  lastRow := page.rowCount
  success := true
  hasMore := page.hasMore
  unexecuted := none
  notice := none
  ignoredFilters := ignoredFilters

/-- The page of a statement that could not be executed. -/
def ofUnexecuted (sql : String) (ignoredFilters : List String) : Response where
  rows := []
  lastRow := 0
  success := true
  hasMore := false
  unexecuted := some sql
  notice := some fallbackNotice
  ignoredFilters := ignoredFilters

/-- The page as a JSON value; parts that say nothing are left out. -/
def toJson (r : Response) : Value :=
  let count : Value := ((Number.ofInt? r.lastRow).map .number).getD .null
  let ignored : Value := .array (r.ignoredFilters.map .string)
  .object <|
    [("rows", .array (r.rows.map .object)), ("lastRow", count), ("success", .boolean r.success),
      ("hasMore", .boolean r.hasMore)] ++
    (r.unexecuted.map fun sql => ("sqlQuery", Value.string sql)).toList ++
    (r.notice.map fun notice => ("notice", Value.string notice)).toList ++
    if r.ignoredFilters.isEmpty then [] else [("ignoredFilters", ignored)]

end Response

/-- The mode in which statements are compiled. -/
def QueryConfig.mode (c : QueryConfig) : RenderMode :=
  if c.parameterized then .parameterized else .inline

/-- Checks a request against a configuration, and gives its window of rows. -/
def Request.accept (r : Request) (c : QueryConfig) : Except Invalid PageWindow := do
  r.validate
  let window ← r.window
  if 0 < c.maxPageSize ∧ c.maxPageSize < window.pageSize then
    throw (.pageTooLarge window.pageSize c.maxPageSize)
  return window

namespace Source

/-- Answers a request whose statement failed. -/
def recover (s : Source) (c : QueryConfig) (r : Request) (statement : Statement)
    (failure : Error) : Service Response :=
  if c.fallback then do
    let sql ← Service.check (r.inlineSql s.dialect)
    return .ofUnexecuted sql statement.ignoredFilters
  else throw failure

/-- Serves a request from the source under a configuration. -/
def serve (s : Source) (c : QueryConfig) (r : Request) : Service Response := do
  let window ← Service.check (r.accept c)
  let statement ← Service.check (r.compile s.dialect c.mode)
  let page : Service Response := do
    let rows ← s.execute statement c.timeoutMs
    return .ofPage (window.trim rows) statement.ignoredFilters
  tryCatch page (s.recover c r statement)

end Source

/-- Serves a request from the source of the given name. -/
def Sources.serve (ss : Sources) (name : String) (r : Request) : Service Response :=
  match ss.get? name with
  | some source => source.serve (ss.configFor name).query r
  | none => throw (.validation (.notRegistered name))

end GridRows
