import GridRows.Number.Shortest
import GridRows.Proofs.Number.Decimal
import Mathlib.Algebra.Order.Floor.Semifield
import Mathlib.Data.Rat.Floor

/-!
# Shortest decimals are read back

The decimal that is found for a number lies within half a step of it, so it is rounded to the number
again (`Binary.shortest_within`).  The search finds one: its first decimals have the first digit of the
number, and each step adds a place, until the places are finer than half a step of the format.  A whole
number that the format's significands reach is found as it is (`Binary.shortest_whole`).
-/

namespace GridRows.Number

/-- The decimal as a rational number. -/
def ShortDecimal.value (d : ShortDecimal) : ℚ := d.digits * 10 ^ d.exponent

/-- A short decimal is not negative. -/
lemma ShortDecimal.value_nonneg (d : ShortDecimal) : 0 ≤ d.value := by
  unfold value
  positivity

/-- Leaving out zeros at the end does not change what a decimal is worth. -/
lemma ShortDecimal.value_trimmed (d : ShortDecimal) (fuel : Nat) :
    (d.trimmed fuel).value = d.value := by
  induction fuel generalizing d with
  | zero => rfl
  | succ fuel ih =>
    rw [trimmed]
    split
    · rename_i h
      have hdigits : (d.digits : ℚ) = (d.digits / 10 : Nat) * 10 := by
        exact_mod_cast (Nat.div_mul_cancel (Nat.dvd_of_mod_eq_zero h.2)).symm
      rw [ih, value, value, hdigits, zpow_add₀ (by norm_num), zpow_one]
      ring
    · rfl

namespace RoundingInterval

open Binary (IsNarrow)

variable {f : Format} {x : Binary f}

/-! ## The interval of a number -/

/-- The lower end is half a step below the number. -/
lemma lower_ofBinary (hx : x.significand ≠ 0) :
    ((ofBinary x).lower : ℚ) = 4 * (x.scaled - x.stepBelow / 2) := by
  have hone : 1 ≤ x.significand := Nat.one_le_iff_ne_zero.mpr hx
  have hscaled : (x.scaled : ℚ) = x.significand * 2 ^ x.shift := by exact_mod_cast x.scaled_eq
  rw [hscaled, Binary.stepBelow]
  unfold ofBinary
  simp only [Nat.one_shiftLeft]
  by_cases h : x.IsNarrow
  · have h' : x.significand = 2 ^ (f.precision - 1) ∧ x.shift ≠ 0 := h
    rw [if_pos h', if_pos h, Nat.cast_mul, Nat.cast_sub (by omega)]
    push_cast
    ring
  · have h' : ¬ (x.significand = 2 ^ (f.precision - 1) ∧ x.shift ≠ 0) := h
    rw [if_neg h', if_neg h, Nat.cast_mul, Nat.cast_sub (by omega)]
    push_cast
    ring

/-- The upper end is half a step above the number. -/
lemma upper_ofBinary (x : Binary f) :
    ((ofBinary x).upper : ℚ) = 4 * (x.scaled + 2 ^ x.shift / 2) := by
  have hscaled : (x.scaled : ℚ) = x.significand * 2 ^ x.shift := by exact_mod_cast x.scaled_eq
  rw [hscaled]
  unfold ofBinary
  simp only [Nat.one_shiftLeft]
  push_cast
  ring

/-- The interval holds the number itself, scaled fourfold. -/
lemma value_ofBinary (x : Binary f) : (ofBinary x).value = 4 * x.scaled := by
  unfold ofBinary
  simp only [Nat.one_shiftLeft, Binary.scaled_eq]
  ring

/-- The interval is measured in quarters of the unit of the format. -/
lemma denominator_ofBinary (x : Binary f) : (ofBinary x).denominator = 4 * 2 ^ f.unit :=
  Nat.shiftLeft_eq _ _

/-- A fraction is in the interval if it is within half a step; the boundaries need an even number. -/
lemma contains_ofBinary (hx : x.significand ≠ 0) (num : Nat) {den : Nat} (hd : 0 < den) :
    (ofBinary x).contains num den = true ↔
      let q : ℚ := num / den * 2 ^ f.unit
      if Even x.significand then
        x.scaled - x.stepBelow / 2 ≤ q ∧ q ≤ x.scaled + 2 ^ x.shift / 2
      else x.scaled - x.stepBelow / 2 < q ∧ q < x.scaled + 2 ^ x.shift / 2 := by
  have hdq : (0 : ℚ) < 4 * den := by positivity
  have hclosed : (ofBinary x).closed = true ↔ Even x.significand := by
    rw [Nat.even_iff]
    exact beq_iff_eq
  have hhere : ((num * (ofBinary x).denominator : Nat) : ℚ) = num / den * 2 ^ f.unit * (4 * den) := by
    rw [denominator_ofBinary]
    push_cast
    field_simp
  have hlow : (((ofBinary x).lower * den : Nat) : ℚ) =
      (x.scaled - x.stepBelow / 2) * (4 * den) := by
    rw [Nat.cast_mul, lower_ofBinary hx]
    ring
  have hhigh : (((ofBinary x).upper * den : Nat) : ℚ) =
      (x.scaled + 2 ^ x.shift / 2) * (4 * den) := by
    rw [Nat.cast_mul, upper_ofBinary]
    ring
  unfold contains
  dsimp only
  by_cases heven : Even x.significand
  · rw [if_pos (hclosed.mpr heven), if_pos heven, Bool.and_eq_true, decide_eq_true_eq,
      decide_eq_true_eq, ← Nat.cast_le (α := ℚ), ← Nat.cast_le (α := ℚ), hhere, hlow, hhigh,
      mul_le_mul_iff_left₀ hdq, mul_le_mul_iff_left₀ hdq]
  · rw [if_neg (mt hclosed.mp heven), if_neg heven, Bool.and_eq_true, decide_eq_true_eq,
      decide_eq_true_eq, ← Nat.cast_lt (α := ℚ), ← Nat.cast_lt (α := ℚ), hhere, hlow, hhigh,
      mul_lt_mul_iff_left₀ hdq, mul_lt_mul_iff_left₀ hdq]

/-- What the ends contain is nearest to the number. -/
lemma within_of_contains (hx : x.significand ≠ 0) {num den : Nat} (hd : 0 < den)
    (h : (ofBinary x).contains num den = true) : x.Within (num / den * 2 ^ f.unit) := by
  rw [contains_ofBinary hx num hd] at h
  dsimp only at h
  split at h
  · rename_i heven
    exact ⟨h.1, h.2, fun _ => heven⟩
  · exact ⟨h.1.le, h.2.le, fun e => e.elim (fun e => absurd e h.1.ne') fun e => absurd e h.2.ne⟩

/-- What is strictly between the ends is contained in them. -/
lemma contains_of_lt (hx : x.significand ≠ 0) {num den : Nat} (hd : 0 < den)
    (hlow : x.scaled - x.stepBelow / 2 < (num / den * 2 ^ f.unit : ℚ))
    (hhigh : (num / den * 2 ^ f.unit : ℚ) < x.scaled + 2 ^ x.shift / 2) :
    (ofBinary x).contains num den = true := by
  rw [contains_ofBinary hx num hd]
  dsimp only
  split
  · exact ⟨hlow.le, hhigh.le⟩
  · exact ⟨hlow, hhigh⟩

/-! ## Decimals at one exponent -/

/-- A fraction that is tried is a decimal with the given exponent. -/
lemma decimal_eq_div (digits : Nat) (exponent : Int) :
    ((digits * Nat.pow 10 exponent.toNat : Nat) : ℚ) / (Nat.pow 10 (-exponent).toNat : Nat) =
      (⟨digits, exponent⟩ : ShortDecimal).value := by
  rw [ShortDecimal.value, ten_zpow, Nat.pow_eq, Nat.pow_eq]
  push_cast
  ring

/-- What is found has the exponent that was asked for, and is rounded to the number. -/
lemma nearestAt?_inv (hx : x.significand ≠ 0) {exponent : Int} {d : ShortDecimal}
    (h : (ofBinary x).nearestAt? exponent = some d) :
    d.exponent = exponent ∧ x.Within (d.value * 2 ^ f.unit) := by
  have hdown : 0 < Nat.pow 10 (-exponent).toNat := Nat.pow_pos (by decide)
  unfold nearestAt? at h
  dsimp only at h
  split at h
  · rename_i hlow
    cases h
    exact ⟨rfl, decimal_eq_div _ exponent ▸ within_of_contains hx hdown hlow.1⟩
  · split at h
    · rename_i hhigh
      cases h
      exact ⟨rfl, decimal_eq_div _ exponent ▸ within_of_contains hx hdown hhigh⟩
    · cases h

/-- One of the two decimals beside the number is found if one of them is rounded to the number. -/
lemma nearestAt?_found {exponent : Int} {num : Nat}
    (hnum : num = ⌊x.magnitude / 10 ^ exponent⌋₊)
    (h : (ofBinary x).contains (num * Nat.pow 10 exponent.toNat)
        (Nat.pow 10 (-exponent).toNat) = true ∨
      (ofBinary x).contains ((num + 1) * Nat.pow 10 exponent.toNat)
        (Nat.pow 10 (-exponent).toNat) = true) :
    ∃ d, (ofBinary x).nearestAt? exponent = some d := by
  have hbelow : (ofBinary x).value * Nat.pow 10 (-exponent).toNat /
      ((ofBinary x).denominator * Nat.pow 10 exponent.toNat) = num := by
    rw [hnum, ← Nat.floor_div_eq_div (K := ℚ), value_ofBinary, denominator_ofBinary, ten_zpow,
      Binary.magnitude, Nat.pow_eq, Nat.pow_eq]
    congr 1
    push_cast
    field_simp
  unfold nearestAt?
  dsimp only
  rw [hbelow]
  split
  · exact ⟨_, rfl⟩
  · rename_i hlow
    rcases h with h | h
    · -- the lower one is passed over for the upper one only
      have hhigh : (ofBinary x).contains ((num + 1) * Nat.pow 10 exponent.toNat)
          (Nat.pow 10 (-exponent).toNat) = true := by
        by_contra hno
        exact hlow ⟨h, .inr hno⟩
      exact ⟨_, if_pos hhigh⟩
    · exact ⟨_, if_pos h⟩

/-- A number that is a decimal itself is found. -/
lemma nearestAt?_exact (hx : x.significand ≠ 0) {exponent : Int} {num : Nat}
    (h : x.magnitude = num * 10 ^ exponent) : ∃ d, (ofBinary x).nearestAt? exponent = some d := by
  have hten : (0 : ℚ) < 10 ^ exponent := by positivity
  have hunit : (2 : ℚ) ^ f.unit ≠ 0 := by positivity
  have hshift : (0 : ℚ) < 2 ^ x.shift := by positivity
  have hbelow := x.stepBelow_pos
  have hscaled : (⟨num, exponent⟩ : ShortDecimal).value * 2 ^ f.unit = x.scaled := by
    rw [ShortDecimal.value, ← h, Binary.magnitude, div_mul_cancel₀ _ hunit]
  have hnum : num = ⌊x.magnitude / 10 ^ exponent⌋₊ := by
    rw [h, mul_div_cancel_right₀ _ hten.ne', Nat.floor_natCast]
  refine nearestAt?_found hnum (.inl (contains_of_lt hx (Nat.pow_pos (by decide)) ?_ ?_))
  · rw [decimal_eq_div, hscaled]
    linarith
  · rw [decimal_eq_div, hscaled]
    linarith

/-- Where the places are no coarser than half a step, one of the decimals beside the number is found. -/
lemma nearestAt?_fine (hx : x.significand ≠ 0) {exponent : Int}
    (h : (10 : ℚ) ^ exponent * 2 ^ f.unit ≤ 2 ^ x.shift / 2) :
    ∃ d, (ofBinary x).nearestAt? exponent = some d := by
  have hten : (0 : ℚ) < 10 ^ exponent := by positivity
  have hunit : (0 : ℚ) < 2 ^ f.unit := by positivity
  have hpos : 0 ≤ x.magnitude / 10 ^ exponent := div_nonneg x.magnitude_nonneg hten.le
  obtain ⟨num, hnum⟩ : ∃ num, num = ⌊x.magnitude / 10 ^ exponent⌋₊ := ⟨_, rfl⟩
  have hle : (num : ℚ) * 10 ^ exponent ≤ x.magnitude := by
    rw [hnum, ← le_div_iff₀ hten]
    exact Nat.floor_le hpos
  have hlt : x.magnitude < (num + 1 : Nat) * 10 ^ exponent := by
    rw [hnum, ← div_lt_iff₀ hten]
    push_cast
    exact Nat.lt_floor_add_one _
  rcases eq_or_lt_of_le hle with heq | hbelow
  · exact nearestAt?_exact hx heq.symm
  · refine nearestAt?_found hnum (.inr (contains_of_lt hx (Nat.pow_pos (by decide)) ?_ ?_))
    · rw [decimal_eq_div, ShortDecimal.value]
      have hscaled := mul_lt_mul_of_pos_right hlt hunit
      rw [Binary.magnitude, div_mul_cancel₀ _ hunit.ne'] at hscaled
      have := x.stepBelow_pos
      linarith
    · rw [decimal_eq_div, ShortDecimal.value]
      have hscaled := mul_lt_mul_of_pos_right hbelow hunit
      rw [Binary.magnitude, div_mul_cancel₀ _ hunit.ne'] at hscaled
      push_cast
      linarith

/-! ## The search -/

/-- The search ends with the first decimal that is found. -/
lemma shortestFrom_found {i : RoundingInterval} {fuel k : Nat} (hk : k < fuel) {exponent : Int}
    (h : ∃ d, i.nearestAt? (exponent - k) = some d) :
    ∃ j ≤ k, i.nearestAt? (exponent - j) = some (i.shortestFrom exponent fuel) := by
  induction fuel generalizing exponent k with
  | zero => exact absurd hk (Nat.not_lt_zero k)
  | succ fuel ih =>
    rw [shortestFrom]
    cases hfirst : i.nearestAt? exponent with
    | some d =>
      refine ⟨0, Nat.zero_le k, ?_⟩
      rw [Nat.cast_zero, sub_zero, hfirst]
      rfl
    | none =>
      obtain ⟨d, hd⟩ := h
      cases k with
      | zero =>
        rw [Nat.cast_zero, sub_zero, hfirst] at hd
        cases hd
      | succ k =>
        have hstep (j : Nat) : exponent - 1 - j = exponent - (j + 1 : Nat) := by
          push_cast
          ring
        obtain ⟨j, hj, hfound⟩ := ih (Nat.lt_of_succ_lt_succ hk) ⟨d, (hstep k).symm ▸ hd⟩
        exact ⟨j + 1, Nat.succ_le_succ hj, hstep j ▸ hfound⟩

/-- A number is not below the power of ten of its length. -/
lemma pow_decimalLength_le {n : Nat} (h : n ≠ 0) : 10 ^ (decimalLength n - 1) ≤ n := by
  unfold decimalLength
  rcases Nat.eq_zero_or_pos ((Nat.toDigits 10 n).length - 1) with hlength | hlength
  · rw [hlength]
    exact Nat.one_le_iff_ne_zero.mpr h
  · rw [← Nat.not_lt, ← Nat.length_toDigits_le_iff (by decide) hlength]
    omega

/-- The places that are counted before the first digit is sought. -/
lemma leadingExponent_ofBinary (x : Binary f) :
    (ofBinary x).leadingExponent = decimalLength ⌊x.magnitude * 10 ^ 400⌋₊ - 401 := by
  have hfloor (places : Nat) : (ofBinary x).value * Nat.pow 10 places / (ofBinary x).denominator =
      ⌊x.magnitude * 10 ^ places⌋₊ := by
    rw [← Nat.floor_div_eq_div (K := ℚ), value_ofBinary, denominator_ofBinary, Binary.magnitude,
      Nat.pow_eq, mul_assoc]
    simp only [Nat.cast_mul, Nat.cast_pow, Nat.cast_ofNat]
    rw [mul_div_mul_left _ _ (by norm_num), div_mul_eq_mul_div]
  exact congrArg (fun w => (decimalLength w : Int) - 401) (hfloor 400)

/-- The number is no less than the place at which the search begins. -/
lemma pow_leadingExponent_le (hx : x.significand ≠ 0) (hu : 2 ^ f.unit ≤ 10 ^ 400) :
    (10 : ℚ) ^ (ofBinary x).leadingExponent ≤ x.magnitude := by
  have hmagnitude : 1 ≤ x.magnitude * 10 ^ 400 := by
    have hscaled : (1 : ℚ) ≤ x.scaled := by exact_mod_cast Binary.scaled_pos hx
    have huq : (2 : ℚ) ^ f.unit ≤ 10 ^ 400 := by exact_mod_cast hu
    have hunit : (0 : ℚ) < 2 ^ f.unit := by positivity
    rw [Binary.magnitude, div_mul_eq_mul_div, le_div_iff₀ hunit]
    calc 1 * 2 ^ f.unit ≤ 1 * 10 ^ 400 := mul_le_mul_of_nonneg_left huq zero_le_one
      _ ≤ x.scaled * 10 ^ 400 := mul_le_mul_of_nonneg_right hscaled (by positivity)
  have hne : ⌊x.magnitude * 10 ^ 400⌋₊ ≠ 0 := by
    rw [Nat.ne_zero_iff_zero_lt, Nat.floor_pos]
    exact hmagnitude
  have hpow : ((10 ^ (decimalLength ⌊x.magnitude * 10 ^ 400⌋₊ - 1) : Nat) : ℚ) ≤
      x.magnitude * 10 ^ 400 :=
    le_trans (by exact_mod_cast pow_decimalLength_le hne)
      (Nat.floor_le (zero_le_one.trans hmagnitude))
  have hlength : 1 ≤ decimalLength ⌊x.magnitude * 10 ^ 400⌋₊ := Nat.length_toDigits_pos
  have hexponent : (ofBinary x).leadingExponent =
      ((decimalLength ⌊x.magnitude * 10 ^ 400⌋₊ - 1 : Nat) : Int) - (400 : Nat) := by
    rw [leadingExponent_ofBinary]
    omega
  rw [hexponent, zpow_sub₀ (by norm_num), zpow_natCast, zpow_natCast, div_le_iff₀ (by positivity)]
  exact_mod_cast hpow

/-- From one on, the first digit stands before the point. -/
lemma leadingExponent_nonneg (h : 1 ≤ x.magnitude) : 0 ≤ (ofBinary x).leadingExponent := by
  have hfloor (places : Nat) : 10 ^ places ≤ ⌊x.magnitude * 10 ^ places⌋₊ := by
    refine Nat.le_floor ?_
    rw [Nat.cast_pow, Nat.cast_ofNat]
    exact le_mul_of_one_le_left (by positivity) h
  have hlength (places : Nat) (hp : 0 < places) :
      places < decimalLength ⌊x.magnitude * 10 ^ places⌋₊ := by
    rw [← Nat.not_le, decimalLength, Nat.length_toDigits_le_iff (by decide) hp, Nat.not_lt]
    exact hfloor places
  have h400 := hlength 400 (by decide)
  rw [leadingExponent_ofBinary]
  omega

end RoundingInterval

namespace Binary

open RoundingInterval

variable {f : Format} {x : Binary f}

/-- A magnitude is below the next power of two of its exponent. -/
lemma magnitude_lt (x : Binary f) : x.magnitude * 2 ^ f.unit < 2 ^ f.precision * 2 ^ x.shift := by
  have hunit : (2 : ℚ) ^ f.unit ≠ 0 := by positivity
  have hlt : x.scaled < 2 ^ f.precision * 2 ^ x.shift := by
    rw [scaled_eq]
    exact Nat.mul_lt_mul_of_pos_right x.significand_lt_pow (Nat.two_pow_pos _)
  rw [magnitude, div_mul_cancel₀ _ hunit]
  exact_mod_cast hlt

/-- The decimal that is found for a number other than zero. -/
lemma shortest_eq (hx : x.significand ≠ 0) :
    x.shortest.value =
      ((ofBinary x).shortestFrom (ofBinary x).leadingExponent 20).value := by
  have hzero : x.isZero = false := beq_eq_false_iff_ne.mpr hx
  unfold shortest
  rw [hzero, if_neg Bool.false_ne_true, ShortDecimal.value_trimmed]

/-- Zero is written as zero. -/
lemma shortest_zero (hx : x.significand = 0) : x.shortest.value = 0 ∧ (x.scaled : ℚ) = 0 := by
  have hzero : x.isZero = true := beq_iff_eq.mpr hx
  constructor
  · rw [shortest, if_pos hzero, ShortDecimal.value, Nat.cast_zero, zero_mul]
  · rw [scaled_eq, hx, Nat.zero_mul, Nat.cast_zero]

/-- The significand has no more bits than nineteen decimal places can tell apart. -/
lemma shortest_found (hx : x.significand ≠ 0) (hp : 2 ^ (f.precision + 1) ≤ 10 ^ 19)
    (hu : 2 ^ f.unit ≤ 10 ^ 400) :
    ∃ j : Nat, (ofBinary x).nearestAt? ((ofBinary x).leadingExponent - j) =
      some ((ofBinary x).shortestFrom (ofBinary x).leadingExponent 20) := by
  have hunit : (0 : ℚ) < 2 ^ f.unit := by positivity
  have hshift : (0 : ℚ) < 2 ^ x.shift := by positivity
  have hpq : (2 : ℚ) ^ f.precision * 2 ≤ 10 ^ 19 := by
    rw [← pow_succ]
    exact_mod_cast hp
  suffices h : (10 : ℚ) ^ ((ofBinary x).leadingExponent - (19 : Nat)) * 2 ^ f.unit ≤
      2 ^ x.shift / 2 by
    obtain ⟨j, -, hj⟩ := shortestFrom_found (show 19 < 20 by decide) (nearestAt?_fine hx h)
    exact ⟨j, hj⟩
  calc (10 : ℚ) ^ ((ofBinary x).leadingExponent - (19 : Nat)) * 2 ^ f.unit
      = 10 ^ (ofBinary x).leadingExponent / 10 ^ 19 * 2 ^ f.unit := by
        rw [zpow_sub₀ (by norm_num), zpow_natCast]
    _ ≤ x.magnitude / 10 ^ 19 * 2 ^ f.unit := by
        have := pow_leadingExponent_le hx hu
        gcongr
    _ = x.magnitude * 2 ^ f.unit / 10 ^ 19 := by ring
    _ ≤ 2 ^ f.precision * 2 ^ x.shift / 10 ^ 19 := by
        have := x.magnitude_lt.le
        gcongr
    _ ≤ 2 ^ x.shift / 2 := by
        rw [div_le_div_iff₀ (by positivity) (by norm_num)]
        nlinarith

/-- The shortest decimal of a number is within half a step of it. -/
lemma shortest_within (hp : 2 ^ (f.precision + 1) ≤ 10 ^ 19) (hu : 2 ^ f.unit ≤ 10 ^ 400)
    (x : Binary f) : x.Within (x.shortest.value * 2 ^ f.unit) := by
  by_cases hx : x.significand = 0
  · obtain ⟨hvalue, hscaled⟩ := shortest_zero hx
    have hbelow := x.stepBelow_pos
    have hshift : (0 : ℚ) < 2 ^ x.shift := by positivity
    rw [hvalue, zero_mul]
    exact ⟨by linarith, by linarith, fun _ => hx ▸ Even.zero⟩
  · obtain ⟨j, hfound⟩ := shortest_found hx hp hu
    rw [shortest_eq hx]
    exact (nearestAt?_inv hx hfound).2

/-- The steps of numbers that the significands of the format reach are no wider than one. -/
lemma shift_le_unit (h : x.magnitude < 2 ^ f.precision) (hp : 0 < f.precision) :
    x.shift ≤ f.unit := by
  by_contra hlt
  have hlt : f.unit + 1 ≤ x.shift := Nat.lt_of_not_le hlt
  have hunit : (0 : ℚ) < 2 ^ f.unit := by positivity
  have hscaled : 2 ^ f.precision * 2 ^ f.unit ≤ x.scaled := by
    calc 2 ^ f.precision * 2 ^ f.unit = 2 ^ (f.precision - 1) * 2 ^ (f.unit + 1) := by
          rw [← pow_add, ← pow_add]
          congr 1
          omega
      _ ≤ x.significand * 2 ^ x.shift :=
          Nat.mul_le_mul (pow_le_significand (by omega)) (Nat.pow_le_pow_right (by decide) hlt)
      _ = x.scaled := x.scaled_eq.symm
  have hscaled : (2 : ℚ) ^ f.precision * 2 ^ f.unit ≤ x.scaled := by exact_mod_cast hscaled
  rw [magnitude, div_lt_iff₀ hunit] at h
  exact absurd h (not_lt.mpr hscaled)

/-- A number that is not below one has digits. -/
lemma significand_ne_zero (h : 1 ≤ x.magnitude) : x.significand ≠ 0 := by
  intro hx
  rw [magnitude, (shortest_zero hx).2, zero_div] at h
  exact absurd h (by norm_num)

/-- Two whole numbers that are within a step of at most one are the same. -/
lemma Within.eq_of_whole (hs : x.shift ≤ f.unit) {n m : Nat} (hn : x.magnitude = n)
    (h : x.Within (m * 2 ^ f.unit)) : m = n := by
  have hunit : (0 : ℚ) < 2 ^ f.unit := by positivity
  have hstep : (2 : ℚ) ^ x.shift ≤ 2 ^ f.unit := pow_le_pow_right₀ (by norm_num) hs
  have hscaled : (x.scaled : ℚ) = n * 2 ^ f.unit := by
    rw [← hn, magnitude, div_mul_cancel₀ _ hunit.ne']
  have hlower := h.lower
  have hupper := h.upper
  have hbelow := x.stepBelow_le
  rw [hscaled] at hlower hupper
  have hle : (m : ℚ) < n + 1 := by
    refine lt_of_mul_lt_mul_right ?_ hunit.le
    linarith
  have hge : (n : ℚ) < m + 1 := by
    refine lt_of_mul_lt_mul_right ?_ hunit.le
    linarith
  have hle : m < n + 1 := by exact_mod_cast hle
  have hge : n < m + 1 := by exact_mod_cast hge
  omega

/-- A whole number that the significands of the format reach is found as it is. -/
lemma shortest_whole (hp : 0 < f.precision) (hten : 2 ^ f.precision ≤ 10 ^ 19)
    (hu : 2 ^ f.unit ≤ 10 ^ 400) {n : Nat} (hn : x.magnitude = n) (hlt : n < 2 ^ f.precision) :
    x.shortest.value = n := by
  rcases Nat.eq_zero_or_pos n with rfl | hpos
  · have hx : x.significand = 0 := by
      by_contra hx
      have hscaled := scaled_pos hx
      have hmagnitude : (0 : ℚ) < x.magnitude := by
        rw [magnitude]
        positivity
      exact hmagnitude.ne' (hn.trans Nat.cast_zero)
    rw [(shortest_zero hx).1, Nat.cast_zero]
  · have hone : 1 ≤ x.magnitude := hn ▸ by exact_mod_cast hpos
    have hx := significand_ne_zero hone
    obtain ⟨k, hk⟩ := Int.eq_ofNat_of_zero_le (leadingExponent_nonneg hone)
    have hfuel : k < 20 := by
      have hle := pow_leadingExponent_le hx hu
      rw [hk, zpow_natCast, hn] at hle
      have hle : 10 ^ k ≤ n := by exact_mod_cast hle
      have hlt : 10 ^ k < 10 ^ 19 := hle.trans_lt (hlt.trans_le hten)
      exact ((Nat.pow_lt_pow_iff_right (by decide)).mp hlt).trans (by decide)
    -- the search comes down to the place of ones, where the number itself is found
    have hplace : x.magnitude = n * 10 ^ ((ofBinary x).leadingExponent - k) := by
      rw [hk, sub_self, zpow_zero, mul_one, hn]
    obtain ⟨j, hj, hfound⟩ := shortestFrom_found hfuel (nearestAt?_exact hx hplace)
    obtain ⟨hexponent, hwithin⟩ := nearestAt?_inv hx hfound
    rw [shortest_eq hx]
    generalize (ofBinary x).shortestFrom _ 20 = d at hexponent hwithin
    -- whatever is found there or before is whole too
    obtain ⟨m, hm⟩ : ∃ m : Nat, d.value = m := by
      have hzpow : d.exponent = (k - j : Nat) := by
        rw [hexponent, hk]
        omega
      refine ⟨d.digits * 10 ^ (k - j), ?_⟩
      rw [ShortDecimal.value, hzpow, zpow_natCast]
      push_cast
      rfl
    have hshift : x.shift ≤ f.unit := shift_le_unit (hn ▸ by exact_mod_cast hlt) hp
    rw [hm] at hwithin ⊢
    exact_mod_cast hwithin.eq_of_whole hshift hn

end Binary

end GridRows.Number
