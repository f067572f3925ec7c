import GridRows.Number.Binary

/-!
# Decimal texts

A decimal text is read exactly, as a coefficient times a power of ten, and only then rounded, once,
to a binary number.
-/

namespace GridRows.Number

/-- The value `± coefficient · 10 ^ exponent`. -/
structure Decimal where
  negative : Bool
  coefficient : Nat
  exponent : Int
  deriving DecidableEq

/-- The value of a decimal digit. -/
def digitValue (c : Char) : Nat := c.toNat - '0'.toNat

/-- The natural number that a list of decimal digits spells. -/
def natOfDigits (cs : List Char) : Nat := cs.foldl (fun n c => 10 * n + digitValue c) 0

namespace Decimal

/-- Takes a sign off the front. -/
def takeSign : List Char → Bool × List Char
  | '-' :: rest => (true, rest)
  | '+' :: rest => (false, rest)
  | cs => (false, cs)

/-- The exponent part of a decimal text: nothing, or a letter, a sign and digits to the end. -/
def exponentOfChars? : List Char → Option Int
  | [] => some 0
  | c :: rest =>
    let (negative, digits) := takeSign rest
    if (c = 'e' ∨ c = 'E') ∧ digits ≠ [] ∧ digits.all Char.isDigit then
      let magnitude : Int := natOfDigits digits
      some (if negative then -magnitude else magnitude)
    else none

/--
Reads an optional sign, digits with at most one point among them, and an optional exponent.  At
least one digit must stand before or after the point.
-/
def ofChars? (cs : List Char) : Option Decimal :=
  let (negative, unsigned) := takeSign cs
  let whole := unsigned.takeWhile Char.isDigit
  let (fraction, rest) :=
    match unsigned.dropWhile Char.isDigit with
    | '.' :: rest => (rest.takeWhile Char.isDigit, rest.dropWhile Char.isDigit)
    | rest => ([], rest)
  if whole.isEmpty ∧ fraction.isEmpty then none
  else do
    let exponent ← exponentOfChars? rest
    some ⟨negative, natOfDigits (whole ++ fraction), exponent - fraction.length⟩

/--
The number of the format nearest to the decimal; `none` beyond the largest finite number.  Texts
whose first digit is far out of the format's range are settled without computing their value.
-/
def toBinary? {f : Format} (d : Decimal) : Option (Binary f) :=
  let leading : Int := d.coefficient.log2 * 3 / 10 + d.exponent
  if d.coefficient = 0 then some (Binary.zero d.negative)
  else if 1 <<< f.exponentBits < leading then none
  else if leading < -(2 * f.unit : Int) - d.coefficient.log2 then some (Binary.zero d.negative)
  else
    Binary.round d.negative (d.coefficient * Nat.pow 10 d.exponent.toNat)
      (Nat.pow 10 (-d.exponent).toNat)

/-- The number of the format nearest to the decimal, infinite beyond the largest finite number. -/
def toExtended {f : Format} (d : Decimal) : Extended f :=
  match d.toBinary? with
  | some x => .finite x
  | none => .infinite d.negative

end Decimal

/--
Reads a decimal text, or the name of a value beside the numbers in any case: `inf`, `infinity` or
`nan` after an optional sign.
-/
def Extended.ofChars? {f : Format} (cs : List Char) : Option (Extended f) :=
  let (negative, unsigned) := Decimal.takeSign cs
  let name := String.ofList (unsigned.map Char.toLower)
  if name = "inf" ∨ name = "infinity" then some (.infinite negative)
  else if name = "nan" then some .nan
  else (Decimal.ofChars? cs).map (·.toExtended)

end GridRows.Number
