import GridRows.Json.Printer
import GridRows.Postgres.Numeric
import GridRows.Text.Utf8

/-!
# PostgreSQL values on the wire

The types of a server, the cells of its rows as JSON, and JSON values as bound parameters.
-/

namespace GridRows.Postgres

open Json (Value)
open Number (Binary Format Double)

/-- A type of the server, as far as values of it are told apart. -/
inductive WireType where
  | bool
  | int2
  | int4
  | int8
  | float4
  | float8
  | numeric
  /-- One of the types whose values are texts. -/
  | text
  /-- One of the types whose values are texts behind the number of their format. -/
  | versioned
  /-- Every other type. -/
  | other
  deriving DecidableEq

/-- The type of the given name. -/
def WireType.ofName (name : String) : WireType :=
  if name = "bool" then .bool
  else if name = "int2" then .int2
  else if name = "int4" then .int4
  else if name = "int8" then .int8
  else if name = "float4" then .float4
  else if name = "float8" then .float8
  else if name = "numeric" then .numeric
  else if ["text", "varchar", "bpchar", "name", "unknown", "citext"].contains name then .text
  else if ["ltree", "lquery", "ltxtquery"].contains name then .versioned
  else .other

/-- Whether values of the type are read and bound as texts. -/
def WireType.isTextual (t : WireType) : Bool := t = .text || t = .versioned

/-- The number of the format in which versioned texts are sent. -/
def textVersion : UInt8 := 1

/-! ## Cells -/

/-- The number that bytes make up, the highest byte first. -/
def natOfBytes (bytes : List UInt8) : Nat := bytes.foldl (fun n b => 256 * n + b.toNat) 0

/-- The signed number of exactly so many bytes, in two's complement. -/
def intOfBytes? (width : Nat) (bytes : List UInt8) : Option Int :=
  if bytes.length = width then
    let n := natOfBytes bytes
    some (if n < 1 <<< (8 * width - 1) then n else (n : Int) - (1 <<< (8 * width) : Nat))
  else none

/-- A signed number of exactly so many bytes as JSON. -/
def intCell? (width : Nat) (bytes : List UInt8) : Option Value := do
  return .number (← Json.Number.ofInt? (← intOfBytes? width bytes))

/-- A finite binary number of exactly so many bytes as JSON. -/
def floatCell? (f : Format) (width : Nat) (bytes : List UInt8) : Option Value := do
  if bytes.length ≠ width then none
  let x ← Binary.ofBits? (f := f) (natOfBytes bytes)
  return .number (.float (← x.convert Format.double))

/-- The value of a cell that is not null; `none` if its bytes are no value that can be shown. -/
def cell? : WireType → List UInt8 → Option Value
  | .bool, [b] => some (.boolean (b ≠ 0))
  | .bool, _ => none
  | .int2, bytes => intCell? 2 bytes
  | .int4, bytes => intCell? 4 bytes
  | .int8, bytes => intCell? 8 bytes
  | .float4, bytes => floatCell? Format.single 4 bytes
  | .float8, bytes => floatCell? Format.double 8 bytes
  | .numeric, bytes => decodeNumeric bytes
  | .text, bytes => (Text.ofUtf8? bytes).map .string
  | .versioned, version :: bytes =>
    if version = textVersion then (Text.ofUtf8? bytes).map .string else none
  | .versioned, [] => none
  | .other, _ => none

/-- The value of a cell; null, and what cannot be shown, are null. -/
def cell (t : WireType) (bytes : Option (List UInt8)) : Value := ((bytes.bind (cell? t))).getD .null

/-! ## Parameters -/

/-- A value as it is bound to a placeholder. -/
inductive Parameter where
  /-- A text that is absent. -/
  | absent
  | boolean (b : Bool)
  | number (x : Double)
  | text (s : String)
  deriving DecidableEq

namespace Parameter

/-- The parameter of a value: every number is binary, arrays and objects are their text. -/
def ofJson : Value → Parameter
  | .null => .absent
  | .boolean b => .boolean b
  | .number n => .number n.toDouble
  | .string s => .text s
  | .array items => .text (Value.array items).text
  | .object members => .text (Value.object members).text

/-- Whether the parameter can be bound where the server expects the type. -/
def fits : Parameter → WireType → Bool
  | .absent, t => t.isTextual
  | .boolean _, t => t = .bool
  | .number _, t => t = .float8
  | .text _, t => t.isTextual

/-- So many bytes of a number, the highest first. -/
def bytesOfNat (width n : Nat) : List UInt8 :=
  (List.range width).map fun i => UInt8.ofNat (n >>> (8 * (width - 1 - i)))

/-- The bytes that are sent where the server expects the type; nothing for an absent text. -/
def bytes? : Parameter → WireType → Option (List UInt8)
  | .absent, _ => none
  | .boolean b, _ => some [if b then 1 else 0]
  | .number x, _ => some (bytesOfNat 8 x.toBits)
  | .text s, .versioned => some (textVersion :: Text.utf8 s)
  | .text s, _ => some (Text.utf8 s)

end Parameter

end GridRows.Postgres
