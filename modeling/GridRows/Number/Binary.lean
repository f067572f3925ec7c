/-!
# Finite binary floating-point numbers

A finite number of a binary format is a whole multiple of the least positive number of that
format, so every value, comparison and rounding here is done on natural numbers.  Rounding goes to
the nearest number, a tie to the even significand, and is `none` beyond the largest finite number.
Infinities and what is no number stand beside the finite numbers in `Extended`.
-/

namespace GridRows.Number

/-- A binary interchange format, given by the width of its significand and of its exponent. -/
structure Format where
  /-- Bits of the significand, the leading one included. -/
  precision : Nat
  /-- Bits of the exponent field. -/
  exponentBits : Nat
  deriving DecidableEq

namespace Format

/-- The format of 32 bits. -/
def single : Format := ⟨24, 8⟩

/-- The format of 64 bits. -/
def double : Format := ⟨53, 11⟩

/-- The least positive number of the format is `2 ^ -unit`. -/
def unit (f : Format) : Nat := 1 <<< (f.exponentBits - 1) + f.precision - 3

/-- The largest scale of a finite number. -/
def maxShift (f : Format) : Nat := 1 <<< f.exponentBits - 3

/-- The position of the sign bit in the encoded word. -/
def signBit (f : Format) : Nat := f.precision - 1 + f.exponentBits

end Format

/--
A finite number of the format: `significand · 2 ^ shift` times the least positive number.  The
representation is unique: only numbers at scale zero may have a leading zero bit.
-/
structure Binary (f : Format) where
  /-- The sign, which zero has too. -/
  negative : Bool
  /-- The digits of the number in base two. -/
  significand : Nat
  /-- The scale of the last digit, counted from the least positive number. -/
  shift : Nat
  significand_lt : significand < 1 <<< f.precision
  normal : shift = 0 ∨ 1 <<< (f.precision - 1) ≤ significand
  shift_le : shift ≤ f.maxShift
  deriving DecidableEq

/-- The quotient `num / den` rounded to the nearest whole number, a tie to the even one. -/
def roundHalfEven (num den : Nat) : Nat :=
  let quotient := num / den
  let rest := num % den
  if 2 * rest < den then quotient
  else if den < 2 * rest then quotient + 1
  else if quotient % 2 = 0 then quotient
  else quotient + 1

namespace Binary

variable {f : Format}

/-- The number with these parts, if they are a number of the format. -/
def ofParts? (negative : Bool) (significand shift : Nat) : Option (Binary f) :=
  if h : significand < 1 <<< f.precision ∧ (shift = 0 ∨ 1 <<< (f.precision - 1) ≤ significand) ∧
      shift ≤ f.maxShift then
    some ⟨negative, significand, shift, h.1, h.2.1, h.2.2⟩
  else none

/-- The magnitude as a multiple of the least positive number of the format. -/
def scaled (x : Binary f) : Nat := x.significand <<< x.shift

/-- Whether the number is one of the two zeros. -/
def isZero (x : Binary f) : Bool := x.significand == 0

/-- The zero of the given sign. -/
def zero (negative : Bool) : Binary f :=
  ⟨negative, 0, 0, by rw [Nat.one_shiftLeft]; exact Nat.two_pow_pos _, .inl rfl, Nat.zero_le _⟩

/-- The number with the given sign and the magnitude of `x`. -/
def withSign (negative : Bool) (x : Binary f) : Binary f := { x with negative := negative }

/-- The number nearest to `± num / den`; `none` if that is beyond the largest finite number. -/
def round (negative : Bool) (num den : Nat) : Option (Binary f) :=
  let scaled := num <<< f.unit
  let shift := (scaled / den).log2 + 1 - f.precision
  let significand := roundHalfEven scaled (den <<< shift)
  if significand = 1 <<< f.precision then
    ofParts? negative (1 <<< (f.precision - 1)) (shift + 1)
  else ofParts? negative significand shift

/-- The number nearest to a natural number. -/
def ofNat? (n : Nat) : Option (Binary f) := round false n 1

/-- The number nearest to a whole number. -/
def ofInt? (n : Int) : Option (Binary f) := round (n < 0) n.natAbs 1

/-- The product, rounded. -/
def mul (x y : Binary f) : Option (Binary f) :=
  round (x.negative ^^ y.negative) (x.scaled * y.scaled) (1 <<< (2 * f.unit))

/-- The quotient by a number other than zero, rounded. -/
def div (x y : Binary f) : Option (Binary f) :=
  round (x.negative ^^ y.negative) x.scaled y.scaled

/-- The number of another format nearest to `x`. -/
def convert (g : Format) (x : Binary f) : Option (Binary g) :=
  round x.negative x.scaled (1 <<< f.unit)

/-- The value of a number without fraction. -/
def toInt? (x : Binary f) : Option Int :=
  if x.scaled % 1 <<< f.unit = 0 then
    let magnitude : Int := (x.scaled / 1 <<< f.unit : Nat)
    some (if x.negative then -magnitude else magnitude)
  else none

/-- The encoded word: sign, exponent field, significand without its leading bit. -/
def toBits (x : Binary f) : Nat :=
  let hidden := 1 <<< (f.precision - 1)
  let sign := if x.negative then 1 <<< f.signBit else 0
  sign + if x.significand < hidden then x.significand
    else (x.shift + 1) * hidden + (x.significand - hidden)

/-- The finite number that a word encodes; `none` for infinities and for what is no number. -/
def ofBits? (word : Nat) : Option (Binary f) :=
  let hidden := 1 <<< (f.precision - 1)
  let negative := word.testBit f.signBit
  let field := word % 1 <<< f.signBit / hidden
  let digits := word % hidden
  if field = 0 then ofParts? negative digits 0 else ofParts? negative (hidden + digits) (field - 1)

end Binary

/-- A number of the format, or one of the values beside the numbers. -/
inductive Extended (f : Format) where
  | finite (x : Binary f)
  | infinite (negative : Bool)
  | nan
  deriving DecidableEq

/-- The number, if there is one. -/
def Extended.finite? {f : Format} : Extended f → Option (Binary f)
  | .finite x => some x
  | _ => none

/-- A finite number of 64 bits. -/
abbrev Double := Binary Format.double

end GridRows.Number
