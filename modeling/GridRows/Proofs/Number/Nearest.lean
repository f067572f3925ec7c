import GridRows.Number.Binary
import Mathlib.Algebra.Order.Field.Rat
import Mathlib.Algebra.Order.Field.Power
import Mathlib.Tactic.FieldSimp
import Mathlib.Tactic.Lemma
import Mathlib.Tactic.Linarith
import Mathlib.Tactic.NormNum
import Mathlib.Tactic.Positivity
import Mathlib.Tactic.Ring

/-!
# Nearest numbers of a format

The finite numbers of a format as rational numbers, and which of them is nearest to a given one: no
number of the format is nearer, and of two that are equally near it is the one with the even significand.
Numbers of a format keep a distance (`Binary.gap_above`, `Binary.gap_below`), so whatever lies within
half of it on each side is nearest to the number between (`Binary.isNearest_of_within`).  Of numbers with
one sign only one is nearest (`Binary.IsNearest.unique`).
-/

namespace GridRows.Number

/-- The number `± q`. -/
def signed (negative : Bool) (q : ℚ) : ℚ := if negative then -q else q

/-- Without a minus sign a magnitude is worth itself. -/
@[simp] lemma signed_false (q : ℚ) : signed false q = q := rfl

/-- With a minus sign a magnitude is worth its negation. -/
@[simp] lemma signed_true (q : ℚ) : signed true q = -q := rfl

/-- Numbers of one sign are as far apart as their magnitudes. -/
lemma abs_signed_sub (negative : Bool) (p q : ℚ) :
    |signed negative p - signed negative q| = |p - q| := by
  cases negative with
  | false => rfl
  | true => rw [signed_true, signed_true, ← abs_neg]; congr 1; ring

/-- A magnitude with any sign has itself as its absolute value. -/
lemma abs_signed (negative : Bool) {q : ℚ} (hq : 0 ≤ q) : |signed negative q| = q := by
  cases negative with
  | false => rw [signed_false, abs_of_nonneg hq]
  | true => rw [signed_true, abs_neg, abs_of_nonneg hq]

/-- A whole number is its sign and its size. -/
lemma signed_natAbs (n : Int) : signed (n < 0) (n.natAbs : ℚ) = n := by
  rcases lt_or_ge n 0 with h | h
  · obtain ⟨k, rfl⟩ := Int.exists_eq_neg_ofNat h.le
    simp [signed]
  · obtain ⟨k, rfl⟩ := Int.eq_ofNat_of_zero_le h
    simp [signed]

namespace Binary

variable {f : Format}

/-- The number without its sign. -/
def magnitude (x : Binary f) : ℚ := x.scaled / 2 ^ f.unit

/-- The number. -/
def value (x : Binary f) : ℚ := signed x.negative x.magnitude

/-- The number is nearest to `q`, and even if it is so together with another one. -/
structure IsNearest (x : Binary f) (q : ℚ) : Prop where
  le : ∀ y : Binary f, |x.value - q| ≤ |y.value - q|
  even : ∀ y : Binary f, |x.value - q| = |y.value - q| → x.value ≠ y.value → Even x.significand

/-- A number that is one of the format is rounded to itself. -/
lemma IsNearest.value_eq {x y : Binary f} (h : x.IsNearest y.value) : x.value = y.value := by
  have hle := h.le y
  rw [sub_self, abs_zero] at hle
  exact sub_eq_zero.mp (abs_eq_zero.mp (le_antisymm hle (abs_nonneg _)))

/-- Rounding keeps the order to every number of the format, unless it comes to fall on that number. -/
lemma IsNearest.order {x : Binary f} {q : ℚ} (h : x.IsNearest q) (y : Binary f)
    (hy : x.value = y.value → q = y.value) :
    (y.value < q ↔ y.value < x.value) ∧ (q < y.value ↔ x.value < y.value) := by
  have hle := h.le y
  rcases lt_trichotomy x.value y.value with hlt | heq | hgt
  · have hq : q < y.value := by
      by_contra hge
      rw [abs_of_nonpos (by linarith), abs_of_nonpos (by linarith)] at hle
      linarith
    exact ⟨iff_of_false hq.not_gt hlt.not_gt, iff_of_true hq hlt⟩
  · rw [hy heq, heq]
    exact ⟨Iff.rfl, Iff.rfl⟩
  · have hq : y.value < q := by
      by_contra hge
      rw [abs_of_nonneg (by linarith), abs_of_nonneg (by linarith)] at hle
      linarith
    exact ⟨iff_of_true hq hgt, iff_of_false hq.not_gt hgt.not_gt⟩

/-! ## Distances between numbers -/

/-- A scaled number is its significand, moved by its shift. -/
lemma scaled_eq (x : Binary f) : x.scaled = x.significand * 2 ^ x.shift := Nat.shiftLeft_eq _ _

/-- A number whose significand is not zero is positive when scaled. -/
lemma scaled_pos {x : Binary f} (h : x.significand ≠ 0) : 0 < x.scaled := by
  rw [scaled_eq]
  exact Nat.mul_pos (Nat.pos_of_ne_zero h) (Nat.two_pow_pos _)

/-- A significand has no more binary digits than the precision. -/
lemma significand_lt_pow (x : Binary f) : x.significand < 2 ^ f.precision := by
  have h := x.significand_lt
  rwa [Nat.one_shiftLeft] at h

/-- Only the smallest exponent goes with fewer digits than the precision. -/
lemma pow_le_significand {x : Binary f} (h : x.shift ≠ 0) :
    2 ^ (f.precision - 1) ≤ x.significand := by
  have hn := x.normal.resolve_left h
  rwa [Nat.one_shiftLeft] at hn

/-- A number with a smaller scale lies a step of the scale before it below its first number. -/
lemma scaled_add_le {y : Binary f} {shift : Nat} (h : y.shift < shift) :
    y.scaled + 2 ^ (shift - 1) ≤ 2 ^ f.precision * 2 ^ (shift - 1) := by
  have hy : y.significand + 1 ≤ 2 ^ f.precision := y.significand_lt_pow
  have hshift : 2 ^ y.shift ≤ 2 ^ (shift - 1) := Nat.pow_le_pow_right (by decide) (by omega)
  calc y.scaled + 2 ^ (shift - 1)
      ≤ y.significand * 2 ^ (shift - 1) + 2 ^ (shift - 1) := by
        rw [scaled_eq]
        exact Nat.add_le_add_right (Nat.mul_le_mul_left _ hshift) _
    _ = (y.significand + 1) * 2 ^ (shift - 1) := by ring
    _ ≤ 2 ^ f.precision * 2 ^ (shift - 1) := Nat.mul_le_mul_right _ hy

/-- A number with a scale at least as large is a multiple of the same power of two. -/
lemma scaled_eq_mul {y : Binary f} {shift : Nat} (h : shift ≤ y.shift) :
    ∃ m, y.scaled = m * 2 ^ shift := by
  refine ⟨y.significand * 2 ^ (y.shift - shift), ?_⟩
  rw [scaled_eq, mul_assoc, ← pow_add, Nat.sub_add_cancel h]

variable (hp : 0 < f.precision)

include hp in
/-- A number with a smaller scale lies below the first number of the scale. -/
lemma scaled_lt_first {y : Binary f} {shift : Nat} (h : y.shift < shift) :
    y.scaled + 2 ^ (shift - 1) ≤ 2 ^ (f.precision - 1) * 2 ^ shift := by
  have hpow : 2 ^ f.precision * 2 ^ (shift - 1) = 2 ^ (f.precision - 1) * 2 ^ shift := by
    rw [← pow_add, ← pow_add]
    congr 1
    omega
  exact hpow ▸ scaled_add_le h

include hp in
/-- A greater exponent makes a greater number. -/
lemma scaled_lt_of_shift_lt {x y : Binary f} (h : y.shift < x.shift) : y.scaled < x.scaled := by
  have hy := scaled_lt_first hp h
  have hx := Nat.mul_le_mul_right (2 ^ x.shift) (pow_le_significand (Nat.ne_zero_of_lt h))
  rw [← scaled_eq] at hx
  exact Nat.lt_of_lt_of_le (Nat.lt_of_lt_of_le (Nat.lt_add_of_pos_right (Nat.two_pow_pos _)) hy) hx

include hp in
/-- The representation of a number is unique. -/
lemma eq_of_scaled {x y : Binary f} (hn : x.negative = y.negative) (h : x.scaled = y.scaled) :
    x = y := by
  have hshift : x.shift = y.shift := by
    rcases lt_trichotomy x.shift y.shift with hlt | heq | hgt
    · exact absurd h (scaled_lt_of_shift_lt hp hlt).ne
    · exact heq
    · exact absurd h (scaled_lt_of_shift_lt hp hgt).ne'
  have hsignificand : x.significand = y.significand := by
    rw [scaled_eq, scaled_eq, hshift] at h
    exact Nat.eq_of_mul_eq_mul_right (Nat.two_pow_pos _) h
  cases x
  cases y
  simp_all

include hp in
/-- The numbers above keep one step away. -/
lemma gap_above {x y : Binary f} (h : x.scaled < y.scaled) : x.scaled + 2 ^ x.shift ≤ y.scaled := by
  rcases Nat.lt_or_ge y.shift x.shift with hs | hs
  · exact absurd h (scaled_lt_of_shift_lt hp hs).not_gt
  · obtain ⟨m, hm⟩ := scaled_eq_mul hs
    rw [hm, scaled_eq] at h ⊢
    have hlt : x.significand < m := Nat.lt_of_mul_lt_mul_right h
    calc x.significand * 2 ^ x.shift + 2 ^ x.shift = (x.significand + 1) * 2 ^ x.shift := by ring
      _ ≤ m * 2 ^ x.shift := Nat.mul_le_mul_right _ hlt

/-- Whether the steps below the number are half as wide as those above. -/
def IsNarrow (x : Binary f) : Prop := x.significand = 2 ^ (f.precision - 1) ∧ x.shift ≠ 0

instance (x : Binary f) : Decidable x.IsNarrow := inferInstanceAs (Decidable (_ ∧ _))

/-- The step from the number to the next one below. -/
def stepBelow (x : Binary f) : ℚ := if x.IsNarrow then 2 ^ x.shift / 2 else 2 ^ x.shift

/-- The step below a number is not greater than the one above. -/
lemma stepBelow_le (x : Binary f) : x.stepBelow ≤ 2 ^ x.shift := by
  have h : (0 : ℚ) < 2 ^ x.shift := by positivity
  unfold stepBelow
  split
  · linarith
  · exact le_rfl

/-- There is always a step below a number. -/
lemma stepBelow_pos (x : Binary f) : 0 < x.stepBelow := by
  unfold stepBelow
  split <;> positivity

include hp in
/-- The numbers below keep one step away, which is half as wide below a power of two. -/
lemma gap_below {x y : Binary f} (h : y.scaled < x.scaled) :
    (y.scaled : ℚ) + x.stepBelow ≤ x.scaled := by
  -- only where a smaller scale begins can the step be narrow
  suffices hx : x.IsNarrow ∧ y.scaled + 2 ^ (x.shift - 1) ≤ x.scaled ∨
      y.scaled + 2 ^ x.shift ≤ x.scaled by
    rcases hx with ⟨hn, hx⟩ | hx
    · obtain ⟨k, hk⟩ := Nat.exists_eq_succ_of_ne_zero hn.2
      rw [stepBelow, if_pos hn]
      rw [hk, Nat.succ_sub_one] at hx
      have hxq : (y.scaled : ℚ) + 2 ^ k ≤ x.scaled := by exact_mod_cast hx
      rw [hk, pow_succ]
      linarith
    · have hxq : (y.scaled : ℚ) + 2 ^ x.shift ≤ x.scaled := by exact_mod_cast hx
      linarith [x.stepBelow_le]
  rcases Nat.lt_or_ge y.shift x.shift with hs | hs
  · have hne : x.shift ≠ 0 := Nat.ne_zero_of_lt hs
    have hy := scaled_lt_first hp hs
    by_cases hn : x.IsNarrow
    · refine .inl ⟨hn, ?_⟩
      rwa [scaled_eq x, hn.1]
    · right
      have hlt : 2 ^ (f.precision - 1) + 1 ≤ x.significand :=
        lt_of_le_of_ne (pow_le_significand hne) fun e => hn ⟨e.symm, hne⟩
      calc y.scaled + 2 ^ x.shift ≤ 2 ^ (f.precision - 1) * 2 ^ x.shift + 2 ^ x.shift :=
            Nat.add_le_add_right (Nat.le_of_add_right_le hy) _
        _ = (2 ^ (f.precision - 1) + 1) * 2 ^ x.shift := by ring
        _ ≤ x.scaled := by rw [scaled_eq]; exact Nat.mul_le_mul_right _ hlt
  · right
    obtain ⟨m, hm⟩ := scaled_eq_mul hs
    rw [hm, scaled_eq] at h ⊢
    have hlt : m < x.significand := Nat.lt_of_mul_lt_mul_right h
    calc m * 2 ^ x.shift + 2 ^ x.shift = (m + 1) * 2 ^ x.shift := by ring
      _ ≤ x.significand * 2 ^ x.shift := Nat.mul_le_mul_right _ hlt

/-! ## What is nearest -/

/-- A number scaled like those of the format that lies within half a step of a number. -/
structure Within (x : Binary f) (q : ℚ) : Prop where
  lower : x.scaled - x.stepBelow / 2 ≤ q
  upper : q ≤ x.scaled + 2 ^ x.shift / 2
  /-- Only an even number takes in its two boundaries. -/
  even : q = x.scaled - x.stepBelow / 2 ∨ q = x.scaled + 2 ^ x.shift / 2 → Even x.significand

include hp in
/-- Within half a step of a number every other one is farther away, or as far if it is even. -/
lemma Within.nearest {x : Binary f} {q : ℚ} (h : x.Within q) (y : Binary f) :
    |x.scaled - q| ≤ |(y.scaled : ℚ) - q| ∧
      (|x.scaled - q| = |(y.scaled : ℚ) - q| → x.scaled ≠ y.scaled → Even x.significand) := by
  obtain ⟨hl, hu, he⟩ := h
  have hstep : (0 : ℚ) < 2 ^ x.shift := by positivity
  have hbelow := x.stepBelow_pos
  have hle := x.stepBelow_le
  rcases lt_trichotomy x.scaled y.scaled with hlt | heq | hgt
  · have hgap : (x.scaled : ℚ) + 2 ^ x.shift ≤ y.scaled := by exact_mod_cast gap_above hp hlt
    have hy : |(y.scaled : ℚ) - q| = y.scaled - q := abs_of_nonneg (by linarith)
    rw [hy]
    refine ⟨abs_le.mpr ⟨by linarith, by linarith⟩, fun e _ => he (.inr ?_)⟩
    -- a tie leaves `q` no place but the upper boundary
    rcases abs_choice ((x.scaled : ℚ) - q) with ha | ha <;> rw [ha] at e <;> linarith
  · rw [heq]
    exact ⟨le_rfl, fun _ hne => absurd rfl hne⟩
  · have hgap := gap_below hp hgt
    have hy : |(y.scaled : ℚ) - q| = q - y.scaled := by
      rw [abs_sub_comm]
      exact abs_of_nonneg (by linarith)
    rw [hy]
    refine ⟨abs_le.mpr ⟨by linarith, by linarith⟩, fun e _ => he (.inl ?_)⟩
    rcases abs_choice ((x.scaled : ℚ) - q) with ha | ha <;> rw [ha] at e <;> linarith

/-- A magnitude is not negative. -/
lemma magnitude_nonneg (x : Binary f) : 0 ≤ x.magnitude := by
  unfold magnitude
  positivity

/-- The absolute value of a number is its magnitude. -/
lemma abs_value (x : Binary f) : |x.value| = x.magnitude := abs_signed _ x.magnitude_nonneg

/-- Across zero distances add up. -/
lemma abs_value_sub_of_ne {y : Binary f} {negative : Bool} {q : ℚ} (hq : 0 ≤ q)
    (h : y.negative ≠ negative) : |y.value - signed negative q| = y.magnitude + q := by
  have hy := add_nonneg y.magnitude_nonneg hq
  cases negative with
  | false =>
    have hn : y.negative = true := by simpa using h
    rw [value, hn, signed_true, signed_false, abs_of_nonpos (by linarith)]
    ring
  | true =>
    have hn : y.negative = false := by simpa using h
    rw [value, hn, signed_true, signed_false, sub_neg_eq_add, abs_of_nonneg hy]

/-- Distances to `± q` are no smaller than those of the numbers without their sign. -/
lemma abs_magnitude_sub_le (y : Binary f) (negative : Bool) {q : ℚ} (hq : 0 ≤ q) :
    |y.magnitude - q| ≤ |y.value - signed negative q| := by
  by_cases h : y.negative = negative
  · rw [value, h, abs_signed_sub]
  · have hy := y.magnitude_nonneg
    rw [abs_value_sub_of_ne hq h]
    exact abs_le.mpr ⟨by linarith, by linarith⟩

include hp in
/-- What lies within half a step of a number, with its sign, is nearest to it. -/
lemma isNearest_of_within {x : Binary f} {q : ℚ} (hq : 0 ≤ q) (h : x.Within (q * 2 ^ f.unit)) :
    x.IsNearest (signed x.negative q) := by
  have hunit : (0 : ℚ) < 2 ^ f.unit := by positivity
  have hscale (y : Binary f) :
      |y.magnitude - q| = |(y.scaled : ℚ) - q * 2 ^ f.unit| / 2 ^ f.unit := by
    rw [← abs_of_pos hunit, ← abs_div, abs_of_pos hunit]
    congr 1
    rw [magnitude]
    field_simp
  have hx : |x.value - signed x.negative q| = |x.magnitude - q| := abs_signed_sub _ _ _
  have hle (y : Binary f) : |x.magnitude - q| ≤ |y.magnitude - q| := by
    rw [hscale, hscale]
    exact div_le_div_of_nonneg_right (h.nearest hp y).1 hunit.le
  refine ⟨fun y => hx ▸ (hle y).trans (y.abs_magnitude_sub_le _ hq), fun y htie hne => ?_⟩
  have heq : |x.magnitude - q| = |y.magnitude - q| :=
    le_antisymm (hle y) (hx ▸ htie ▸ y.abs_magnitude_sub_le _ hq)
  have hscaled : |(x.scaled : ℚ) - q * 2 ^ f.unit| = |(y.scaled : ℚ) - q * 2 ^ f.unit| := by
    rw [hscale, hscale] at heq
    exact (div_left_inj' hunit.ne').mp heq
  refine (h.nearest hp y).2 hscaled fun e => hne ?_
  -- the two numbers could only differ in their sign, but then both are zero
  have hmagnitude : x.magnitude = y.magnitude := by rw [magnitude, magnitude, e]
  by_cases hn : y.negative = x.negative
  · rw [value, value, hmagnitude, hn]
  · rw [hx, abs_value_sub_of_ne hq hn, ← hmagnitude] at htie
    have hzero : x.magnitude = 0 := by
      rcases abs_choice (x.magnitude - q) with ha | ha <;> rw [ha] at htie
      · have hq0 : q = 0 := by linarith
        have hle0 := hle (zero false)
        have hz : (zero false : Binary f).magnitude = 0 := by simp [magnitude, scaled, zero]
        rw [hz, hq0, sub_self, abs_zero, sub_zero] at hle0
        exact abs_eq_zero.mp (le_antisymm hle0 (abs_nonneg _))
      · linarith
    rw [value, value, ← hmagnitude, hzero]
    cases x.negative <;> cases y.negative <;> simp

/-! ## Numbers of the format -/

/-- A number with these parts, if the parts are allowed. -/
lemma ofParts?_cases (negative : Bool) {significand : Nat} (shift : Nat)
    (hlt : significand < 2 ^ f.precision)
    (hnormal : shift ≠ 0 → 2 ^ (f.precision - 1) ≤ significand) :
    (f.maxShift < shift ∧ ofParts? (f := f) negative significand shift = none) ∨
      shift ≤ f.maxShift ∧ ∃ x : Binary f, ofParts? negative significand shift = some x ∧
        x.negative = negative ∧ x.significand = significand ∧ x.shift = shift := by
  have hnormal : shift = 0 ∨ 1 <<< (f.precision - 1) ≤ significand := by
    rw [Nat.one_shiftLeft]
    exact or_iff_not_imp_left.mpr hnormal
  rcases Nat.lt_or_ge f.maxShift shift with h | h
  · exact .inl ⟨h, dif_neg fun hs => Nat.not_le.mpr h hs.2.2⟩
  · rw [← Nat.one_shiftLeft] at hlt
    exact .inr ⟨h, _, dif_pos ⟨hlt, hnormal, h⟩, rfl, rfl, rfl⟩

include hp in
/-- Every significand has a number at every scale; leading zero bits move into the scale. -/
lemma exists_scaled_eq (negative : Bool) {significand shift : Nat}
    (hs : significand < 2 ^ f.precision) (hk : shift ≤ f.maxShift) :
    ∃ x : Binary f, x.negative = negative ∧ x.scaled = significand * 2 ^ shift := by
  induction shift generalizing significand with
  | zero =>
    rcases ofParts?_cases (f := f) negative 0 hs (fun h => absurd rfl h) with
      ⟨hlt, -⟩ | ⟨-, x, -, hn, hsig, hx⟩
    · exact absurd hlt (Nat.not_lt_zero _)
    · exact ⟨x, hn, by rw [scaled_eq, hsig, hx]⟩
  | succ shift ih =>
    rcases Nat.lt_or_ge significand (2 ^ (f.precision - 1)) with hlt | hge
    · have hdouble : 2 * significand < 2 ^ f.precision := by
        have hpow : 2 * 2 ^ (f.precision - 1) = 2 ^ f.precision := by
          rw [← pow_succ', Nat.sub_add_cancel hp]
        omega
      obtain ⟨x, hn, hx⟩ := ih hdouble (by omega)
      exact ⟨x, hn, by rw [hx, pow_succ]; ring⟩
    · rcases ofParts?_cases (f := f) negative (shift + 1) hs (fun _ => hge) with
        ⟨hlt, -⟩ | ⟨-, x, -, hn, hsig, hx⟩
      · exact absurd hlt (Nat.not_lt.mpr hk)
      · exact ⟨x, hn, by rw [scaled_eq, hsig, hx]⟩

include hp in
/-- The whole numbers up to the first one with a bit too many are numbers of the format. -/
lemma exists_value_eq (hk : f.precision + f.unit ≤ f.maxShift) {n : Int}
    (hn : |n| ≤ 2 ^ f.precision) : ∃ x : Binary f, x.value = n := by
  have hunit : (2 : ℚ) ^ f.unit ≠ 0 := by positivity
  have hle : n.natAbs ≤ 2 ^ f.precision := by zify; exact hn
  obtain ⟨x, hx, hscaled⟩ : ∃ x : Binary f, x.negative = decide (n < 0) ∧
      x.scaled = n.natAbs * 2 ^ f.unit := by
    rcases Nat.lt_or_eq_of_le hle with hlt | heq
    · exact exists_scaled_eq hp _ hlt (by omega)
    · have hone : 1 < 2 ^ f.precision := Nat.one_lt_two_pow hp.ne'
      obtain ⟨x, hx, hscaled⟩ := exists_scaled_eq hp (n < 0) hone hk
      exact ⟨x, hx, by rw [hscaled, heq, one_mul, pow_add]⟩
  refine ⟨x, ?_⟩
  rw [value, hx, magnitude, hscaled, Nat.cast_mul, Nat.cast_pow, Nat.cast_ofNat,
    mul_div_cancel_right₀ _ hunit, signed_natAbs]

/-! ## Only one number is nearest -/

include hp in
/-- An even number is followed by an odd one. -/
lemma exists_next {x : Binary f} (h : Even x.significand) :
    ∃ z : Binary f, z.negative = x.negative ∧ z.significand = x.significand + 1 ∧
      z.scaled = x.scaled + 2 ^ x.shift := by
  have hroom : x.significand + 1 < 2 ^ f.precision := by
    refine lt_of_le_of_ne x.significand_lt_pow fun e => ?_
    have heven : Even (x.significand + 1) := e ▸ even_two.pow_of_ne_zero hp.ne'
    exact Nat.not_even_iff_odd.mpr h.add_one heven
  rcases ofParts?_cases x.negative x.shift hroom
    (fun hs => Nat.le_succ_of_le (pow_le_significand hs)) with ⟨hlt, -⟩ | ⟨-, z, -, hn, hs, hx⟩
  · exact absurd x.shift_le (Nat.not_le.mpr hlt)
  · refine ⟨z, hn, hs, ?_⟩
    rw [scaled_eq, scaled_eq, hs, hx]
    ring

include hp in
/-- Of two numbers of one sign that are nearest to the same one, neither is below the other. -/
lemma IsNearest.scaled_le {x y : Binary f} {q : ℚ} (hn : y.negative = x.negative)
    (hx : x.IsNearest (signed x.negative q)) (hy : y.IsNearest (signed x.negative q)) :
    y.scaled ≤ x.scaled := by
  by_contra hlt
  have hlt : x.scaled < y.scaled := Nat.not_le.mp hlt
  have hunit : (0 : ℚ) < 2 ^ f.unit := by positivity
  have hmono {a b : Binary f} (h : a.scaled < b.scaled) : a.magnitude < b.magnitude :=
    div_lt_div_of_pos_right (by exact_mod_cast h) hunit
  have hdist {a : Binary f} (h : a.negative = x.negative) :
      |a.value - signed x.negative q| = |a.magnitude - q| := by
    rw [value, h, abs_signed_sub]
  have hless := hmono hlt
  have htie : |x.magnitude - q| = |y.magnitude - q| := by
    rw [← hdist rfl, ← hdist hn]
    exact le_antisymm (hx.le y) (hy.le x)
  have hmiddle : x.magnitude + y.magnitude = 2 * q := by
    rcases abs_eq_abs.mp htie with h | h <;> linarith
  have hne : x.value ≠ y.value := by
    intro e
    have habs := congrArg abs e
    rw [abs_value, abs_value] at habs
    exact hless.ne habs
  have hxeven := hx.even y (le_antisymm (hx.le y) (hy.le x)) hne
  have hyeven := hy.even x (le_antisymm (hy.le x) (hx.le y)) hne.symm
  -- the number after the smaller one is the larger one, or it is nearer than both
  obtain ⟨z, hzn, hzs, hz⟩ := exists_next hp hxeven
  have hgap := gap_above hp hlt
  rw [← hz] at hgap
  rcases Nat.lt_or_eq_of_le hgap with hzlt | heq
  · have hpow : 0 < 2 ^ x.shift := Nat.two_pow_pos _
    have hzx := hmono (show x.scaled < z.scaled by omega)
    have hzy := hmono hzlt
    have hle := hx.le z
    rw [hdist rfl, hdist hzn, abs_of_nonpos (by linarith)] at hle
    have hnear : |z.magnitude - q| < q - x.magnitude := abs_lt.mpr ⟨by linarith, by linarith⟩
    linarith
  · have hzy : z = y := eq_of_scaled hp (hzn.trans hn.symm) heq
    rw [← hzy, hzs] at hyeven
    exact Nat.not_even_iff_odd.mpr hxeven.add_one hyeven

include hp in
/-- Only one number of each sign is nearest to a given one. -/
lemma IsNearest.unique {x y : Binary f} {q : ℚ} (hn : y.negative = x.negative)
    (hx : x.IsNearest (signed x.negative q)) (hy : y.IsNearest (signed x.negative q)) : x = y :=
  eq_of_scaled hp hn.symm
    (le_antisymm (IsNearest.scaled_le hp hn.symm (hn ▸ hy) (hn ▸ hx)) (IsNearest.scaled_le hp hn hx hy))

end Binary

end GridRows.Number
