import GridRows.Json.Printer
import GridRows.Number.Decimal

/-!
# DuckDB values

The values that DuckDB returns and takes, and their conversion from and to JSON.  Whole numbers of
up to 64 bits stay numbers; wider ones, decimals, times and intervals become texts.
-/

namespace GridRows.DuckDb

open Json (Number)
open Number (Extended Format)

/-- The unit of a time. -/
inductive TimeUnit where
  | second
  | millisecond
  | microsecond
  | nanosecond
  deriving DecidableEq

/-- The name of the unit. -/
def TimeUnit.name : TimeUnit → String
  | .second => "Second"
  | .millisecond => "Millisecond"
  | .microsecond => "Microsecond"
  | .nanosecond => "Nanosecond"

/-- The unit of the given name. -/
def TimeUnit.ofName? : String → Option TimeUnit
  | "Second" => some .second
  | "Millisecond" => some .millisecond
  | "Microsecond" => some .microsecond
  | "Nanosecond" => some .nanosecond
  | _ => none

/-- A value of DuckDB. -/
inductive Value where
  | null
  | boolean (b : Bool)
  | tinyInt (n : Int8)
  | smallInt (n : Int16)
  | int (n : Int32)
  | bigInt (n : Int64)
  /-- A whole number of 128 bits. -/
  | hugeInt (n : Int)
  | uTinyInt (n : UInt8)
  | uSmallInt (n : UInt16)
  | uInt (n : UInt32)
  | uBigInt (n : UInt64)
  /-- A natural number of 128 bits. -/
  | uHugeInt (n : Nat)
  | float (x : Extended Format.single)
  | double (x : Extended Format.double)
  /-- The number `unscaled · 10 ^ -scale`, of at most `width` digits. -/
  | decimal (width scale : Nat) (unscaled : Int)
  | timestamp (unit : TimeUnit) (count : Int64)
  | text (s : String)
  | blob (bytes : List UInt8)
  /-- The days since the start of 1970. -/
  | date32 (days : Int32)
  | time64 (unit : TimeUnit) (count : Int64)
  | interval (months days : Int32) (nanos : Int64)
  | list (items : List Value)
  | enum (s : String)
  | struct (fields : List (String × Value))
  | array (items : List Value)
  | map (entries : List (Value × Value))
  | union (inner : Value)
  | geometry (bytes : List UInt8)

/-- A whole number as text. -/
def intText (n : Int) : String := String.ofList (Number.intText n)

/-- A number with a fixed count of digits after the point, and at least one before it. -/
def decimalText (scale : Nat) (unscaled : Int) : String :=
  let digits := Nat.toDigits 10 unscaled.natAbs
  let filled := List.replicate (scale + 1 - digits.length) '0' ++ digits
  let whole := filled.length - scale
  let magnitude :=
    filled.take whole ++ if scale = 0 then [] else '.' :: filled.drop whole
  String.ofList (if unscaled < 0 then '-' :: magnitude else magnitude)

/-- Numbers in brackets, with a comma and a blank between each two. -/
def byteList (bytes : List UInt8) : String :=
  "[" ++ ", ".intercalate (bytes.map fun b => toString b.toNat) ++ "]"

/-- A binary number as JSON; there is none for the values beside the numbers. -/
def doubleToJson (x : Option Number.Double) : Json.Value :=
  match x with
  | some x => .number (.float x)
  | none => .null

mutual

/--
The value as JSON.  A structure becomes an object, in which of fields with the same name the last one
counts; a map becomes an array of its entries, each an array of key and value.
-/
def Value.toJson : Value → Json.Value
  | .null => .null
  | .boolean b => .boolean b
  | .tinyInt n => .number (.ofInt64 n.toInt64)
  | .smallInt n => .number (.ofInt64 n.toInt64)
  | .int n => .number (.ofInt64 n.toInt64)
  | .bigInt n => .number (.ofInt64 n)
  | .hugeInt n => .string (intText n)
  | .uTinyInt n => .number (.ofUInt64 n.toUInt64)
  | .uSmallInt n => .number (.ofUInt64 n.toUInt64)
  | .uInt n => .number (.ofUInt64 n.toUInt64)
  | .uBigInt n => .number (.ofUInt64 n)
  | .uHugeInt n => .string (s!"UHugeInt({n})")
  | .float x => doubleToJson (x.finite?.bind (·.convert Format.double))
  | .double x => doubleToJson x.finite?
  | .decimal _ scale unscaled => .string (decimalText scale unscaled)
  | .timestamp unit count => .string (intText count.toInt ++ " (" ++ unit.name ++ ")")
  | .text s => .string s
  | .blob bytes => .string (Text.hexOfBytes bytes)
  | .date32 days => .number (.ofInt64 days.toInt64)
  | .time64 unit count => .string (intText count.toInt ++ " (" ++ unit.name ++ ")")
  | .interval months days nanos =>
    .string (intText months.toInt ++ " months " ++ intText days.toInt ++ " days " ++
      intText nanos.toInt ++ " nanos")
  | .list items => .array (itemsToJson items)
  | .enum s => .string s
  | .struct fields => .object (fieldsToJson [] fields)
  | .array items => .array (itemsToJson items)
  | .map entries => .array (entriesToJson entries)
  | .union inner => inner.toJson
  | .geometry bytes => .string ("Geometry(" ++ byteList bytes ++ ")")

/-- The items of a list as JSON. -/
def itemsToJson : List Value → List Json.Value
  | [] => []
  | item :: rest => item.toJson :: itemsToJson rest

/-- The fields of a structure as members of an object, added to the members before them. -/
def fieldsToJson (before : Json.Members) : List (String × Value) → Json.Members
  | [] => before
  | (name, value) :: rest => fieldsToJson (before.insert name value.toJson) rest

/-- The entries of a map as pairs. -/
def entriesToJson : List (Value × Value) → List Json.Value
  | [] => []
  | (key, value) :: rest => .array [key.toJson, value.toJson] :: entriesToJson rest

end

/--
The value that a JSON value is bound as.  A whole number that a signed word does not hold is bound as
the nearest binary number; arrays and objects are bound as their text.
-/
def Value.ofJson : Json.Value → Value
  | .null => .null
  | .boolean b => .boolean b
  | .number (.integer n fits) =>
    if n < 0x8000000000000000 then .bigInt (Int64.ofInt n)
    else .double (.finite (Json.Number.integer n fits).toDouble)
  | .number (.float x) => .double (.finite x)
  | .string s => .text s
  | .array items => .text (Json.Value.array items).text
  | .object members => .text (Json.Value.object members).text

end GridRows.DuckDb
