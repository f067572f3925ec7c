import GridRows.Json.Value

/-!
# PostgreSQL numeric values

The binary form of a number of any size: a header of four words of 16 bits, then digits of base ten
thousand, the first worth that base to the power of the weight.  A value is first spelled as a decimal
text with the digits after the point that its scale asks for, and the text is then read as a number.
-/

namespace GridRows.Postgres

open Number (Decimal Format Double natOfDigits)

/-- The parts of a numeric value that is a number. -/
structure Numeric where
  negative : Bool
  /-- The power of ten thousand of the first digit. -/
  weight : Int
  /-- The decimal digits after the point. -/
  scale : Nat
  /-- The digits of base ten thousand. -/
  digits : List Nat
  deriving DecidableEq

namespace Numeric

/-- The decimal digits of one digit of base ten thousand, at least four. -/
def group (digit : Nat) : List Char :=
  let cs := Nat.toDigits 10 digit
  List.replicate (4 - cs.length) '0' ++ cs

/-- The digits before the point, filled with zeros; there are none if the weight is negative. -/
def wholeDigits (n : Numeric) : List Nat :=
  let count := (n.weight + 1).toNat
  n.digits.take count ++ List.replicate (count - n.digits.length) 0

/-- The digits after the point, filled with zeros to as many as the scale can need. -/
def fractionDigits (n : Numeric) : List Nat :=
  let leading := List.replicate (-1 - n.weight).toNat 0
  let count := n.scale / 4 + 1
  (leading ++ n.digits.drop (n.weight + 1).toNat ++ List.replicate count 0).take count

/-- The decimal text before the point; its first digit is not filled with zeros. -/
def wholeText (n : Numeric) : List Char :=
  match n.wholeDigits with
  | [] => ['0']
  | first :: rest => Nat.toDigits 10 first ++ rest.flatMap group

/-- The decimal text after the point. -/
def fractionText (n : Numeric) : List Char := (n.fractionDigits.flatMap group).take n.scale

/-- The decimal text of the value. -/
def text (n : Numeric) : List Char :=
  (if n.negative then ['-'] else []) ++ n.wholeText ++
    if n.scale = 0 then [] else '.' :: n.fractionText

/-- The whole number of a value without digits after the point, if a signed word holds it. -/
def toInteger? (n : Numeric) : Option Json.Number :=
  if n.scale = 0 then
    let magnitude : Int := natOfDigits n.wholeText
    let value := if n.negative then -magnitude else magnitude
    if value < 0x8000000000000000 then Json.Number.ofInt? value else none
  else none

/-- The binary number nearest to the decimal text. -/
def toDouble? (n : Numeric) : Option Double :=
  (Decimal.ofChars? n.text).bind (·.toBinary?)

/-- The value as JSON: a whole number if it can be, else the nearest binary number, else nothing. -/
def toJson (n : Numeric) : Json.Value :=
  ((n.toInteger? <|> n.toDouble?.map Json.Number.float).map Json.Value.number).getD .null

end Numeric

/-- The words of 16 bits that bytes make up, the high byte first; a last single byte is left out. -/
def words16 : List UInt8 → List Nat
  | high :: low :: rest => (256 * high.toNat + low.toNat) :: words16 rest
  | _ => []

/-- A word of 16 bits read as a signed number. -/
def signed16 (word : Nat) : Int := if word < 0x8000 then word else (word : Int) - 0x10000

/--
The JSON value of a numeric value; `none` if its bytes are cut short.  A sign with both high bits set
marks a value beside the numbers, whatever follows the header.
-/
def decodeNumeric (bytes : List UInt8) : Option Json.Value :=
  match words16 bytes with
  | count :: weight :: sign :: scale :: rest =>
    if sign / 0x4000 = 3 then some .null
    else if rest.length < count then none
    else some (Numeric.toJson ⟨sign = 0x4000, signed16 weight, scale, rest.take count⟩)
  | _ => none

end GridRows.Postgres
