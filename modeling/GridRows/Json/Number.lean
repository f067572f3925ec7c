import GridRows.Number.Decimal
import GridRows.Number.Shortest

/-!
# JSON numbers

A number is a whole number that a machine word of 64 bits holds, signed or unsigned, or a finite
binary number of 64 bits.  The two kinds stay apart: `2` and `2.0` are different numbers, and each
prints as it was kept.
-/

namespace GridRows.Json

open GridRows.Number

/-- Whether a whole number fits a word of 64 bits, signed below zero and unsigned above. -/
abbrev FitsWord (n : Int) : Prop := -0x8000000000000000 ≤ n ∧ n < 0x10000000000000000

/-- A JSON number. -/
inductive Number where
  /-- A whole number written without point or exponent. -/
  | integer (value : Int) (fits : FitsWord value)
  /-- Every other number. -/
  | float (value : Double)
  deriving DecidableEq

namespace Number

/-- The whole number, if it fits a word. -/
def ofInt? (n : Int) : Option Number :=
  if h : FitsWord n then some (.integer n h) else none

/-- A signed word of 64 bits. -/
def ofInt64 (n : Int64) : Number :=
  .integer n.toInt ⟨Int64.le_toInt n, Int.lt_trans (Int64.toInt_lt n) (by decide)⟩

/-- An unsigned word of 64 bits. -/
def ofUInt64 (n : UInt64) : Number :=
  .integer n.toNat ⟨by omega, by have := n.toNat_lt; omega⟩

/-- The binary number nearest to a number; the word sizes are far below its largest value. -/
def toDouble : Number → Double
  | .integer n _ => (Binary.ofInt? n).getD (.zero false)
  | .float x => x

/-- Digits with a point after the first `whole` of them, filled with zeros to have one on each side. -/
def positional (digits : List Char) (whole : Int) : List Char :=
  if whole ≤ 0 then
    ['0', '.'] ++ List.replicate (-whole).toNat '0' ++ digits
  else
    let filled := digits ++ List.replicate (whole.toNat - digits.length) '0'
    let fraction := filled.drop whole.toNat
    filled.take whole.toNat ++ '.' :: if fraction.isEmpty then ['0'] else fraction

/-- Digits with a point after the first, and the power of ten of the first with its sign. -/
def scientific (digits : List Char) (leading : Int) : List Char :=
  let mantissa := digits.take 1 ++ if digits.length ≤ 1 then [] else '.' :: digits.drop 1
  let sign := if leading < 0 then '-' else '+'
  mantissa ++ 'e' :: sign :: Nat.toDigits 10 leading.natAbs

/--
The text of a binary number: its shortest decimal, positional from `10 ^ -5` up to below `10 ^ 16`,
and always with a point or an exponent.
-/
def floatText (x : Double) : List Char :=
  let decimal := x.shortest
  let digits := Nat.toDigits 10 decimal.digits
  let leading := decimal.exponent + digits.length - 1
  let magnitude :=
    if -5 ≤ leading ∧ leading < 16 then positional digits (leading + 1)
    else scientific digits leading
  if x.negative then '-' :: magnitude else magnitude

/-- The decimal text of a whole number. -/
def intText (n : Int) : List Char :=
  if n < 0 then '-' :: Nat.toDigits 10 n.natAbs else Nat.toDigits 10 n.natAbs

/-- The text of a number. -/
def text : Number → List Char
  | .integer n _ => intText n
  | .float x => floatText x

end Number

end GridRows.Json
