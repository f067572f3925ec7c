/-!
# Configuration

Settings for all data sources, and settings of single data sources by name.  A data source that has
query settings of its own uses all of those; otherwise it uses the ones for all data sources.
-/

namespace GridRows

/-- How requests for rows are handled. -/
structure QueryConfig where
  /-- The milliseconds that a statement may take; zero for no limit. -/
  timeoutMs : Nat := 30000
  /-- The largest page that is served; zero for no limit. -/
  maxPageSize : Nat := 0
  /-- Whether values are bound separately, not written into the statement. -/
  parameterized : Bool := true
  /-- Whether a failed statement is answered by its text and an empty page. -/
  fallback : Bool := true
  deriving DecidableEq

/-- Settings of an embedded database. -/
structure DuckDbConfig where
  /-- The statements that may run at the same time. -/
  maxConcurrency : Nat := 16
  deriving DecidableEq

/-- Settings of a database server. -/
structure PostgresConfig where
  /-- The connections that are kept. -/
  poolSize : Nat := 16
  deriving DecidableEq

/-- The settings of one data source, as far as it has its own. -/
structure SourceConfig where
  query : Option QueryConfig := none
  duckdb : Option DuckDbConfig := none
  postgres : Option PostgresConfig := none
  deriving DecidableEq

/-- All settings. -/
structure Config where
  /-- The query settings of data sources without their own. -/
  query : QueryConfig := {}
  /-- The settings of data sources by name; each name occurs once. -/
  sources : List (String × SourceConfig) := []
  deriving DecidableEq

/-- The settings that hold for a data source. -/
structure ResolvedConfig where
  query : QueryConfig
  duckdb : DuckDbConfig
  postgres : PostgresConfig
  deriving DecidableEq

/-- The settings that hold for the data source of the given name. -/
def Config.resolve (c : Config) (name : String) : ResolvedConfig :=
  let own := (c.sources.lookup name).getD {}
  { query := own.query.getD c.query
    duckdb := own.duckdb.getD {}
    postgres := own.postgres.getD {} }

end GridRows
