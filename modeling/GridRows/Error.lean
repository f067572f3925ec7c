import GridRows.Json.Reader
import GridRows.Validation

/-!
# Errors

What an operation fails with.  Every error has a kind and, except for a text that is not JSON, words
for the caller, which begin with the kind.
-/

namespace GridRows

/-- Why a statement was not executed. -/
inductive ExecutionFault where
  | timedOut (milliseconds : Nat)
  /-- A reason that a data source gives in its own words. -/
  | stated (text : String)
  deriving DecidableEq

/-- The words for each fault. -/
def ExecutionFault.message : ExecutionFault → String
  | .timedOut milliseconds => s!"query timed out after {milliseconds}ms"
  | .stated text => text

/-- Why there is no configuration. -/
inductive ConfigFault where
  | missingFile
  | notUtf8
  /-- The document is not TOML, or a setting has a value of the wrong type. -/
  | unreadable
  /-- A reason that a data source gives in its own words. -/
  | stated (text : String)
  deriving DecidableEq

/-- The words for each fault. -/
def ConfigFault.message : ConfigFault → String
  | .missingFile => "failed to read config file: No such file or directory (os error 2)"
  | .notUtf8 => "failed to read config file: stream did not contain valid UTF-8"
  | .unreadable => "failed to parse config"
  | .stated text => text

/-- An error. -/
inductive Error where
  | io (text : String)
  | json (cause : Json.ReadError)
  | validation (cause : Invalid)
  | execution (cause : ExecutionFault)
  | config (cause : ConfigFault)
  /-- A failure of DuckDB, in its own words. -/
  | duckdb (text : String)
  | other (text : String)

namespace Error

/-- The name of the kind of an error. -/
def kind : Error → String
  | .io _ => "Io"
  | .json _ => "Json"
  | .validation _ => "Validation"
  | .execution _ => "Execution"
  | .config _ => "Config"
  | .duckdb _ => "DuckDb"
  | .other _ => "Other"

/--
The words of an error.  Of the faults of a JSON text only a value that does not fit its type has
words of its own.
-/
def message? : Error → Option String
  | .io text => some ("io error: " ++ text)
  | .json (.mismatch cause) => some cause.message
  | .json _ => none
  | .validation cause => some ("validation error: " ++ cause.message)
  | .execution cause => some ("execution error: " ++ cause.message)
  | .config cause => some ("config error: " ++ cause.message)
  | .duckdb text => some ("duckdb error: " ++ text)
  | .other text => some text

/-- The fault of reading a text as JSON; a text that can be read is stated to be valid. -/
def jsonFault (text : String) : Json.ReadError :=
  match Json.Value.read text with
  | .error fault => fault
  | .ok _ => .mismatch (.rule "valid")

/--
The error of the named kind that a data source reports in its own words.  For JSON the words are the
text that was not read.  An unknown kind is a failed execution, and so is a failure of DuckDB that is
reported by its name alone.
-/
def stated (kind text : String) : Error :=
  if kind = "Io" then .io text
  else if kind = "Json" then .json (jsonFault text)
  else if kind = "Validation" then .validation (.stated text)
  else if kind = "Config" then .config (.stated text)
  else if kind = "Other" then .other text
  else .execution (.stated text)

end Error

end GridRows
