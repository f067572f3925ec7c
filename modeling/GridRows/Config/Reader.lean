import GridRows.Config
import GridRows.Error
import GridRows.Toml.Document

/-!
# Reading configurations

A configuration is a TOML document.  Every setting may be absent and then has its default; settings
of unknown names are ignored; a setting of the wrong type is refused.  A group of settings may also
be written as an array of their values in order.
-/

namespace GridRows

open Toml (Value)

/-- The settings of a group by name, given the names in their order; `none` if it is no group. -/
def settings? (names : List String) : Value → Option (List (String × Value))
  | .table entries => some entries
  | .array items => some (names.zip items)
  | .datetime _ => some []
  | _ => none

/-- The setting of a name, read by `read?`, or the default if it is absent. -/
def settingOr {α : Type} (entries : List (String × Value)) (name : String)
    (read? : Value → Option α) (default : α) : Option α :=
  match entries.lookup name with
  | some value => read? value
  | none => some default

/-- A count, which must not be negative. -/
def countOf? : Value → Option Nat
  | .integer n => if 0 ≤ n then some n.toNat else none
  | _ => none

/-- A switch. -/
def switchOf? : Value → Option Bool
  | .boolean b => some b
  | _ => none

/-- The query settings of a value. -/
def QueryConfig.ofToml? (v : Value) : Option QueryConfig := do
  let entries ← settings?
    ["timeout_ms", "max_page_size", "parameterized", "fallback_on_execution_error"] v
  let default : QueryConfig := {}
  return {
    timeoutMs := ← settingOr entries "timeout_ms" countOf? default.timeoutMs
    maxPageSize := ← settingOr entries "max_page_size" countOf? default.maxPageSize
    parameterized := ← settingOr entries "parameterized" switchOf? default.parameterized
    fallback := ← settingOr entries "fallback_on_execution_error" switchOf? default.fallback }

/-- The settings of an embedded database of a value. -/
def DuckDbConfig.ofToml? (v : Value) : Option DuckDbConfig := do
  let entries ← settings? ["max_concurrency"] v
  let default : DuckDbConfig := {}
  return { maxConcurrency := ← settingOr entries "max_concurrency" countOf? default.maxConcurrency }

/-- The settings of a database server of a value. -/
def PostgresConfig.ofToml? (v : Value) : Option PostgresConfig := do
  let entries ← settings? ["pool_size"] v
  let default : PostgresConfig := {}
  return { poolSize := ← settingOr entries "pool_size" countOf? default.poolSize }

/-- The settings of one data source of a value. -/
def SourceConfig.ofToml? (v : Value) : Option SourceConfig := do
  let entries ← settings? ["query", "duckdb", "postgres"] v
  return {
    query := ← settingOr entries "query" (fun v => some <$> QueryConfig.ofToml? v) none
    duckdb := ← settingOr entries "duckdb" (fun v => some <$> DuckDbConfig.ofToml? v) none
    postgres := ← settingOr entries "postgres" (fun v => some <$> PostgresConfig.ofToml? v) none }

/-- The settings for all data sources of a value. -/
def defaultsOf? (v : Value) : Option QueryConfig := do
  let entries ← settings? ["query"] v
  settingOr entries "query" QueryConfig.ofToml? {}

/-- The settings of the data sources of a value, which must be a table. -/
def sourcesOf? : Value → Option (List (String × SourceConfig))
  | .table entries => entries.mapM fun entry => return (entry.1, ← SourceConfig.ofToml? entry.2)
  | _ => none

/-- The configuration of a document. -/
def Config.ofToml? (document : Value) : Option Config := do
  let entries ← settings? ["defaults", "datasources"] document
  return {
    query := ← settingOr entries "defaults" defaultsOf? {}
    sources := ← settingOr entries "datasources" sourcesOf? [] }

/-- Reads the text of a configuration. -/
def Config.read (text : String) : Except ConfigFault Config :=
  match (Toml.read text).bind Config.ofToml? with
  | some config => .ok config
  | none => .error .unreadable

/-- What is found at the place of a configuration file. -/
inductive ConfigFile where
  | missing
  | bytes (content : ByteArray)

/-- Reads a configuration file. -/
def ConfigFile.read : ConfigFile → Except ConfigFault Config
  | .missing => .error .missingFile
  | .bytes content =>
    match String.fromUTF8? content with
    | some text => Config.read text
    | none => .error .notUtf8

/-- The configuration of the first file that can be read, or all defaults. -/
def Config.ofFirst (files : List ConfigFile) : Config :=
  (files.findSome? fun file => file.read.toOption).getD {}

end GridRows
