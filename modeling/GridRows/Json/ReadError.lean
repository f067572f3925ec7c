import GridRows.Json.Number
import GridRows.Text.Quoted

/-!
# Why a JSON text is not read

Three kinds of fault: the text ends too early, it is not JSON, or it is JSON that does not fit the
type that is read.  Only the last kind has a message.
-/

namespace GridRows.Json

/-- What a text holds where something else is expected. -/
inductive Found where
  | null
  | boolean (b : Bool)
  | number (n : Number)
  | string (s : String)
  | sequence
  | map

/-- How a message names what was found. -/
def Found.message : Found → String
  | .null => "null"
  | .boolean b => "boolean `" ++ toString b ++ "`"
  | .number (.integer n fits) => "integer `" ++ String.ofList (Number.integer n fits).text ++ "`"
  | .number (.float x) => "floating point `" ++ String.ofList (Number.floatText x) ++ "`"
  | .string s => "string " ++ Text.quoted s
  | .sequence => "sequence"
  | .map => "map"

/-- Why well-formed JSON does not fit the type that is read. -/
inductive Mismatch where
  | wrongType (found : Found) (expected : String)
  /-- A number of the right kind that the type cannot hold. -/
  | outOfRange (found : Found) (expected : String)
  | unknownVariant (name : String) (known : List String)
  | missingField (name : String)
  | duplicateField (name : String)
  /-- A record written as an array that stops before a required field. -/
  | tooShort (length : Nat) (expected : String)
  /-- A rule of the type itself is broken. -/
  | rule (text : String)

/-- Names between backquotes, joined as alternatives. -/
def alternatives : List String → String
  | [] => ""
  | [name] => "`" ++ name ++ "`"
  | [first, second] => "`" ++ first ++ "` or `" ++ second ++ "`"
  | name :: rest => "`" ++ name ++ "`, " ++ alternatives rest

/-- The message of a mismatch. -/
def Mismatch.message : Mismatch → String
  | .wrongType found expected => "invalid type: " ++ found.message ++ ", expected " ++ expected
  | .outOfRange found expected => "invalid value: " ++ found.message ++ ", expected " ++ expected
  | .unknownVariant name known =>
    "unknown variant `" ++ name ++ "`, expected " ++ alternatives known
  | .missingField name => "missing field `" ++ name ++ "`"
  | .duplicateField name => "duplicate field `" ++ name ++ "`"
  | .tooShort length expected => s!"invalid length {length}, expected {expected}"
  | .rule text => text

/-- Why a JSON text is not read. -/
inductive ReadError where
  /-- The text ends inside a value. -/
  | ended
  /-- The text is not JSON, or a number or the nesting is beyond what is read. -/
  | malformed
  /-- The text is JSON but does not fit the type. -/
  | mismatch (cause : Mismatch)

end GridRows.Json
