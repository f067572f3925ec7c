import GridRows.Json.Number

/-!
# Number literals

The spelling of a number and the number it stands for.  A literal without point and exponent whose
value fits a word stands for that whole number, except `-0`.  Any other literal stands for a binary
number: its leading digits are kept as long as they fit an unsigned word, and the word is scaled by
powers of ten, each step rounded.  Beyond the largest finite number it stands for nothing.
-/

namespace GridRows.Json

open GridRows.Number


/-- The parts of a number as spelled; the digit lists hold decimal digits only. -/
structure Literal where
  negative : Bool
  whole : List Char
  fraction : Option (List Char)
  /-- Whether the exponent is negative, and its digits. -/
  exponent : Option (Bool × List Char)

/-- The leading digits kept so far and the power of ten that they are scaled by. -/
structure Significand where
  digits : Nat
  exponent : Int

namespace Significand

/-- The significand with one more digit, if it still fits an unsigned word. -/
def push? (s : Significand) (c : Char) (exponent : Int) : Option Significand :=
  let digits := 10 * s.digits + digitValue c
  if digits < 0x10000000000000000 then some ⟨digits, exponent⟩ else none

/-- Takes in the digits before the point: from the first that does not fit, each only scales. -/
def addWhole (s : Significand) : List Char → Significand
  | [] => s
  | c :: rest =>
    match s.push? c s.exponent with
    | some next => next.addWhole rest
    | none => ⟨s.digits, s.exponent + (rest.length + 1)⟩

/-- Takes in the digits after the point: from the first that does not fit, all are dropped. -/
def addFraction (s : Significand) : List Char → Significand
  | [] => s
  | c :: rest =>
    match s.push? c (s.exponent - 1) with
    | some next => next.addFraction rest
    | none => s

end Significand

/-- The binary number nearest to a power of ten. -/
def powerOfTen (n : Nat) : Double := (Binary.ofNat? (Nat.pow 10 n)).getD (.zero false)

/-- Divides by a power of ten, at most `10 ^ 308` at a time; zero stays as it is. -/
def scaleDown (x : Double) (exponent : Nat) : Option Double :=
  if x.isZero then some x
  else if exponent ≤ 308 then x.div (powerOfTen exponent)
  else do
    let y ← x.div (powerOfTen 308)
    scaleDown y (exponent - 308)
termination_by exponent

/-- Multiplies by a power of ten; `none` beyond the largest finite number. -/
def scaleUp (x : Double) (exponent : Nat) : Option Double :=
  if x.isZero then some x
  else if exponent ≤ 308 then x.mul (powerOfTen exponent)
  else none

/-- The binary number that a significand stands for. -/
def Significand.toDouble? (s : Significand) : Option Double := do
  let x ← Binary.ofNat? s.digits
  if 0 ≤ s.exponent then scaleUp x s.exponent.toNat else scaleDown x (-s.exponent).toNat

namespace Literal

/-- The exponent as a number, zero if there is none. -/
def exponentValue (l : Literal) : Int :=
  match l.exponent with
  | none => 0
  | some (negative, digits) =>
    let magnitude : Int := natOfDigits digits
    if negative then -magnitude else magnitude

/-- The binary number that the literal stands for. -/
def toDouble? (l : Literal) : Option Double := do
  let kept := ((⟨0, 0⟩ : Significand).addWhole l.whole).addFraction (l.fraction.getD [])
  let x ← Significand.toDouble? ⟨kept.digits, kept.exponent + l.exponentValue⟩
  return x.withSign l.negative

/-- The whole number that the literal stands for, if it is spelled as one and is not `-0`. -/
def toInt? (l : Literal) : Option Int :=
  if l.fraction.isSome ∨ l.exponent.isSome then none
  else
    let magnitude := natOfDigits l.whole
    if ¬ l.negative then some magnitude
    else if magnitude = 0 then none
    else some (-(magnitude : Int))

/-- The number that the literal stands for; `none` beyond the largest finite number. -/
def toNumber? (l : Literal) : Option Number :=
  (l.toInt?.bind Number.ofInt?) <|> (l.toDouble?.map .float)

end Literal

end GridRows.Json
