import GridRows.Number.Binary

/-!
# Shortest decimals

The shortest decimal that reads back as a given number: of all decimals between the number's two
rounding boundaries, those with the fewest digits, and of these the nearest to the number.
-/

namespace GridRows.Number

/-- A positive decimal, `digits · 10 ^ exponent`. -/
structure ShortDecimal where
  /-- The digits as one natural number. -/
  digits : Nat
  /-- The power of ten of the last digit. -/
  exponent : Int
  deriving DecidableEq

/-- The number of decimal digits; zero has one. -/
def decimalLength (n : Nat) : Nat := (Nat.toDigits 10 n).length

/-- The same decimal without zeros at the end of its digits, dropping at most `fuel` of them. -/
def ShortDecimal.trimmed (d : ShortDecimal) : Nat → ShortDecimal
  | 0 => d
  | fuel + 1 =>
    if d.digits ≠ 0 ∧ d.digits % 10 = 0 then
      ShortDecimal.trimmed ⟨d.digits / 10, d.exponent + 1⟩ fuel
    else d

/--
The reals that round to one number, as fractions over a common denominator: the number itself, the
two boundaries, and whether the boundaries still round to it.
-/
structure RoundingInterval where
  lower : Nat
  value : Nat
  upper : Nat
  denominator : Nat
  closed : Bool

namespace RoundingInterval

/--
The interval of a positive number.  Half a step lies on each side, but below a power of two the
steps are half as wide; a boundary is a tie, which goes to an even significand.
-/
def ofBinary {f : Format} (x : Binary f) : RoundingInterval :=
  let scale := 1 <<< x.shift
  let narrow := x.significand = 1 <<< (f.precision - 1) ∧ x.shift ≠ 0
  { lower := (4 * x.significand - if narrow then 1 else 2) * scale
    value := 4 * x.significand * scale
    upper := (4 * x.significand + 2) * scale
    denominator := 4 <<< f.unit
    closed := x.significand % 2 == 0 }

/-- Whether the fraction `num / den` rounds to the number. -/
def contains (i : RoundingInterval) (num den : Nat) : Bool :=
  let low := i.lower * den
  let high := i.upper * den
  let here := num * i.denominator
  if i.closed then low ≤ here && here ≤ high else low < here && here < high

/-- The power of ten of the first digit, sought above `10 ^ -400`. -/
def leadingExponent (i : RoundingInterval) : Int :=
  let places : Nat := 400
  (decimalLength (i.value * Nat.pow 10 places / i.denominator) : Int) - (places + 1)

/--
The decimal whose last digit has the given power of ten and that is nearest to the number, among
the two beside it that round to it; an exact tie goes to the even digit.
-/
def nearestAt? (i : RoundingInterval) (exponent : Int) : Option ShortDecimal :=
  let up := Nat.pow 10 exponent.toNat
  let down := Nat.pow 10 (-exponent).toNat
  let below := i.value * down / (i.denominator * up)
  let rest := i.value * down % (i.denominator * up)
  let low := i.contains (below * up) down
  let high := i.contains ((below + 1) * up) down
  let nearerLow := 2 * rest < i.denominator * up ∨
    (2 * rest = i.denominator * up ∧ below % 2 = 0)
  if low ∧ (nearerLow ∨ ¬ high) then some ⟨below, exponent⟩
  else if high then some ⟨below + 1, exponent⟩
  else none

/-- The first decimal found while the last digit moves down from `exponent`, at most `fuel` steps. -/
def shortestFrom (i : RoundingInterval) (exponent : Int) : Nat → ShortDecimal
  | 0 => ⟨0, 0⟩
  | fuel + 1 => (i.nearestAt? exponent).getD (shortestFrom i (exponent - 1) fuel)

end RoundingInterval

/-- The shortest decimal of the magnitude of a number; zero for zero. -/
def Binary.shortest {f : Format} (x : Binary f) : ShortDecimal :=
  if x.isZero then ⟨0, 0⟩
  else
    let interval := RoundingInterval.ofBinary x
    (interval.shortestFrom interval.leadingExponent 20).trimmed 20

end GridRows.Number
