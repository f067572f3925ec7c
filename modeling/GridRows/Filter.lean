import GridRows.Json.Printer

/-!
# Column filters

A filter tests the cells of one column.  On the wire it is a record of a kind, a test and up to two
operands.  Text and number filters with a known test are typed; every other filter is kept, by its
kind and test alone, as one that is not supported.
-/

namespace GridRows

open Json (Value Number)

/-- A test of a text cell against a text. -/
inductive TextTest where
  | equals
  | notEqual
  | contains
  | notContains
  | startsWith
  | endsWith
  deriving DecidableEq

/-- The name of the test on the wire. -/
def TextTest.name : TextTest → String
  | .equals => "equals"
  | .notEqual => "notEqual"
  | .contains => "contains"
  | .notContains => "notContains"
  | .startsWith => "startsWith"
  | .endsWith => "endsWith"

/-- The test with the given name. -/
def TextTest.ofName? : String → Option TextTest
  | "equals" => some .equals
  | "notEqual" => some .notEqual
  | "contains" => some .contains
  | "notContains" => some .notContains
  | "startsWith" => some .startsWith
  | "endsWith" => some .endsWith
  | _ => none

/-- A comparison of a number cell with one number. -/
inductive Comparison where
  | equals
  | notEqual
  | greaterThan
  | greaterThanOrEqual
  | lessThan
  | lessThanOrEqual
  deriving DecidableEq

/-- The name of the comparison on the wire. -/
def Comparison.name : Comparison → String
  | .equals => "equals"
  | .notEqual => "notEqual"
  | .greaterThan => "greaterThan"
  | .greaterThanOrEqual => "greaterThanOrEqual"
  | .lessThan => "lessThan"
  | .lessThanOrEqual => "lessThanOrEqual"

/-- A test of a number cell, before its operands are known. -/
inductive NumberTest where
  | comparison (c : Comparison)
  | inRange
  deriving DecidableEq

/-- The name of the test on the wire. -/
def NumberTest.name : NumberTest → String
  | .comparison c => c.name
  | .inRange => "inRange"

/-- The test with the given name. -/
def NumberTest.ofName? : String → Option NumberTest
  | "equals" => some (.comparison .equals)
  | "notEqual" => some (.comparison .notEqual)
  | "greaterThan" => some (.comparison .greaterThan)
  | "greaterThanOrEqual" => some (.comparison .greaterThanOrEqual)
  | "lessThan" => some (.comparison .lessThan)
  | "lessThanOrEqual" => some (.comparison .lessThanOrEqual)
  | "inRange" => some .inRange
  | _ => none

/-- A filter on one column. -/
inductive Filter where
  | text (test : TextTest) (operand : String)
  | number (comparison : Comparison) (operand : Number)
  /-- Both bounds belong to the range. -/
  | inRange (low high : Number)
  /-- A filter of an unknown kind, or with an unknown or absent test. -/
  | unsupported (kind : String) (test : Option String)
  deriving DecidableEq

/-- Whether the filter is one that cannot be applied. -/
def Filter.isUnsupported : Filter → Bool
  | .unsupported .. => true
  | _ => false

/-- A filter as it is written on the wire. -/
structure WireFilter where
  kind : String
  test : Option String
  operand : Option Value
  /-- The second operand of a range. -/
  upper : Option Value

/-- Why the operands of a known test are refused. -/
inductive FilterFault where
  | notText (test : TextTest) (found : Value)
  | noText (test : TextTest)
  | notNumber (test : NumberTest) (field : String) (found : Value)
  | noNumber (test : NumberTest) (field : String)

/-- The words for each fault. -/
def FilterFault.message : FilterFault → String
  | .notText test found =>
    "text filter '" ++ test.name ++ "' expects a string value, got " ++ found.text
  | .noText test => "text filter '" ++ test.name ++ "' is missing its value"
  | .notNumber test field found =>
    "number filter '" ++ test.name ++ "' expects a numeric " ++ field ++ ", got " ++ found.text
  | .noNumber test field => "number filter '" ++ test.name ++ "' is missing " ++ field

/--
A number as filters keep it: a binary number without fraction and below `9 · 10 ^ 15` in magnitude
becomes the whole number it equals.
-/
def wholeIfExact : Number → Number
  | .float x =>
    match x.toInt? with
    | some n =>
      if h : n.natAbs < 9_000_000_000_000_000 then .integer n ⟨by omega, by omega⟩ else .float x
    | none => .float x
  | .integer n fits => .integer n fits

namespace Filter

/-- The operand of a text test. -/
def textOperand (test : TextTest) : Option Value → Except FilterFault String
  | some (.string s) => .ok s
  | some found => .error (.notText test found)
  | none => .error (.noText test)

/-- An operand of a number test; `field` is its name on the wire. -/
def numberOperand (test : NumberTest) (field : String) : Option Value → Except FilterFault Number
  | some (.number n) => .ok (wholeIfExact n)
  | some found => .error (.notNumber test field found)
  | none => .error (.noNumber test field)

/-- The filter that a wire filter stands for.  Operands of filters not supported are ignored. -/
def ofWire (w : WireFilter) : Except FilterFault Filter :=
  match w.test with
  | none => .ok (.unsupported w.kind none)
  | some name =>
    if w.kind = "text" then
      match TextTest.ofName? name with
      | some test => return .text test (← textOperand test w.operand)
      | none => .ok (.unsupported w.kind (some name))
    else if w.kind = "number" then
      match NumberTest.ofName? name with
      | some (.comparison c) =>
        return .number c (← numberOperand (.comparison c) "filter" w.operand)
      | some .inRange => do
        let low ← numberOperand .inRange "filter" w.operand
        let high ← numberOperand .inRange "filterTo" w.upper
        return .inRange low high
      | none => .ok (.unsupported w.kind (some name))
    else .ok (.unsupported w.kind (some name))

/-- The filter as it is written on the wire. -/
def toWire : Filter → WireFilter
  | .text test operand => ⟨"text", some test.name, some (.string operand), none⟩
  | .number comparison operand => ⟨"number", some comparison.name, some (.number operand), none⟩
  | .inRange low high => ⟨"number", some "inRange", some (.number low), some (.number high)⟩
  | .unsupported kind test => ⟨kind, test, none, none⟩

end Filter

/-- The wire filter as a JSON value; absent parts are left out. -/
def WireFilter.toJson (w : WireFilter) : Value :=
  .object <|
    [("filterType", .string w.kind)] ++
    (w.test.map fun test => ("type", Value.string test)).toList ++
    (w.operand.map fun operand => ("filter", operand)).toList ++
    (w.upper.map fun upper => ("filterTo", upper)).toList

/-- The filter as a JSON value. -/
def Filter.toJson (f : Filter) : Value := f.toWire.toJson

end GridRows
