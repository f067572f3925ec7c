import GridRows.Proofs.Number.Digits
import GridRows.Proofs.Number.Rounding
import Mathlib.Data.List.TakeWhile

/-!
# Decimals and their texts

A text of a sign, digits and an exponent is read as the decimal that it spells
(`Decimal.ofChars?_whole`, `Decimal.ofChars?_fraction`), and the decimal is rounded correctly, also where
its value is not computed (`Decimal.toBinary?_rounds`).
-/

namespace GridRows.Number

/-- A power of ten as a fraction of natural numbers, one of which is one. -/
lemma ten_zpow (exponent : Int) :
    (10 : ℚ) ^ exponent = 10 ^ exponent.toNat / 10 ^ (-exponent).toNat := by
  rw [← zpow_natCast, ← zpow_natCast, ← zpow_sub₀ (by norm_num)]
  congr 1
  omega

/-! ## Reading decimal texts -/

namespace Decimal

/-- The decimal without its sign, as a rational number. -/
def magnitude (d : Decimal) : ℚ := d.coefficient * 10 ^ d.exponent

/-- The decimal as a rational number. -/
def value (d : Decimal) : ℚ := signed d.negative d.magnitude

/-- What a decimal is worth without its sign is not negative. -/
lemma magnitude_nonneg (d : Decimal) : 0 ≤ d.magnitude := by
  unfold magnitude
  positivity

/-- What is read as an exponent does not go on with a digit or a point. -/
lemma head_of_exponent {tail : List Char} {exponent : Int} (h : exponentOfChars? tail = some exponent) :
    tail = [] ∨ ∃ c rest, tail = c :: rest ∧ c.isDigit = false ∧ c ≠ '.' := by
  cases tail with
  | nil => exact .inl rfl
  | cons c rest =>
    refine .inr ⟨c, rest, rfl, ?_⟩
    unfold exponentOfChars? at h
    dsimp only at h
    split at h
    · rename_i hc
      rcases hc.1 with rfl | rfl <;> decide
    · cases h

/-- A minus sign before digits is found, and no sign is found before them. -/
lemma takeSign_append {negative : Bool} {cs : List Char}
    (h : ∃ c rest, cs = c :: rest ∧ c.isDigit = true) :
    takeSign ((if negative then ['-'] else []) ++ cs) = (negative, cs) := by
  obtain ⟨c, rest, rfl, hc⟩ := h
  cases negative with
  | true => rfl
  | false =>
    rw [if_neg Bool.false_ne_true, List.nil_append, takeSign]
    · rintro more ⟨⟩
      exact absurd hc (by decide)
    · rintro more ⟨⟩
      exact absurd hc (by decide)

variable (negative : Bool) {whole fraction tail : List Char} {exponent : Int}

/-- No digit stands before an exponent. -/
lemma digits_of_exponent (ht : exponentOfChars? tail = some exponent) :
    tail.takeWhile Char.isDigit = [] ∧ tail.dropWhile Char.isDigit = tail := by
  rcases head_of_exponent ht with rfl | ⟨c, rest, rfl, hc, -⟩
  · exact ⟨rfl, rfl⟩
  · simp [hc]

/-- A text whose whole part has digits begins with a digit. -/
lemma head_of_digits (hw : ∀ c ∈ whole, c.isDigit) (hne : whole ≠ []) (more : List Char) :
    ∃ c rest, whole ++ more = c :: rest ∧ c.isDigit = true := by
  cases whole with
  | nil => exact absurd rfl hne
  | cons c whole => exact ⟨c, _, rfl, hw c List.mem_cons_self⟩

/-- A text without a point. -/
lemma ofChars?_whole (hw : ∀ c ∈ whole, c.isDigit) (hne : whole ≠ [])
    (ht : exponentOfChars? tail = some exponent) :
    ofChars? ((if negative then ['-'] else []) ++ (whole ++ tail)) =
      some ⟨negative, natOfDigits whole, exponent⟩ := by
  have hstop := digits_of_exponent ht
  have htake : (whole ++ tail).takeWhile Char.isDigit = whole := by
    rw [List.takeWhile_append_of_pos hw, hstop.1, List.append_nil]
  have hdrop : (whole ++ tail).dropWhile Char.isDigit = tail := by
    rw [List.dropWhile_append_of_pos hw, hstop.2]
  unfold ofChars?
  rw [takeSign_append (head_of_digits hw hne _)]
  dsimp only
  rw [htake, hdrop]
  rcases head_of_exponent ht with rfl | ⟨c, rest, rfl, -, hpoint⟩
  · simp [hne, ht]
  · split
    · rename_i heq
      cases heq
      exact absurd rfl hpoint
    · simp [hne, ht]

/-- A text with a point. -/
lemma ofChars?_fraction (hw : ∀ c ∈ whole, c.isDigit) (hne : whole ≠ [])
    (hf : ∀ c ∈ fraction, c.isDigit) (ht : exponentOfChars? tail = some exponent) :
    ofChars? ((if negative then ['-'] else []) ++ (whole ++ '.' :: (fraction ++ tail))) =
      some ⟨negative, natOfDigits (whole ++ fraction), exponent - fraction.length⟩ := by
  have hstop := digits_of_exponent ht
  unfold ofChars?
  rw [takeSign_append (head_of_digits hw hne _)]
  dsimp only
  rw [List.takeWhile_append_of_pos hw, List.dropWhile_append_of_pos hw]
  rw [List.takeWhile_cons_of_neg (by decide), List.dropWhile_cons_of_neg (by decide),
    List.append_nil]
  simp only [List.takeWhile_append_of_pos hf, List.dropWhile_append_of_pos hf, hstop.1, hstop.2,
    List.append_nil]
  simp [hne, ht]

/-! ## Rounding decimals -/

/-- Three decimal places take no more than ten binary ones. -/
lemma ten_pow_le_two_pow (n : Nat) : 10 ^ (n * 3 / 10) ≤ 2 ^ n := by
  refine (Nat.pow_le_pow_iff_left (n := 10) (by decide)).mp ?_
  calc (10 ^ (n * 3 / 10)) ^ 10 = 10 ^ (n * 3 / 10 * 10) := by rw [pow_mul]
    _ ≤ 10 ^ (3 * n) := Nat.pow_le_pow_right (by decide) (by omega)
    _ = 1000 ^ n := by norm_num [pow_mul]
    _ ≤ 1024 ^ n := Nat.pow_le_pow_left (by decide) n
    _ = (2 ^ n) ^ 10 := by rw [← pow_mul, mul_comm, pow_mul]; norm_num

variable {f : Format} {d : Decimal}

/-- The limit is far below the power of ten from which decimals are not computed. -/
lemma limit_le_of_leading (he : 2 ≤ f.exponentBits) (hd : d.coefficient ≠ 0)
    (h : (1 <<< f.exponentBits : Nat) < (d.coefficient.log2 * 3 / 10 : Nat) + d.exponent) :
    f.limit ≤ d.magnitude := by
  have hscale : f.precision + f.maxShift ≤ 1 <<< f.exponentBits + f.unit := by
    have hfour : 2 ^ 2 ≤ 1 <<< f.exponentBits := by
      rw [Nat.one_shiftLeft]
      exact Nat.pow_le_pow_right (by decide) he
    unfold Format.maxShift Format.unit
    generalize 1 <<< f.exponentBits = power at hfour
    generalize 1 <<< (f.exponentBits - 1) = half
    omega
  -- the leading exponent alone puts the decimal above every power of two of the format
  have hpow : (2 : ℚ) ^ (1 <<< f.exponentBits) ≤ d.magnitude := by
    have hlog : (10 : ℚ) ^ (d.coefficient.log2 * 3 / 10) ≤ d.coefficient := by
      exact_mod_cast (ten_pow_le_two_pow _).trans (Nat.log2_self_le hd)
    calc (2 : ℚ) ^ (1 <<< f.exponentBits) ≤ 10 ^ (1 <<< f.exponentBits) :=
          pow_le_pow_left₀ (by norm_num) (by norm_num) _
      _ = 10 ^ ((1 <<< f.exponentBits : Nat) : ℤ) := (zpow_natCast _ _).symm
      _ ≤ 10 ^ ((d.coefficient.log2 * 3 / 10 : Nat) + d.exponent) :=
          zpow_le_zpow_right₀ (by norm_num) h.le
      _ = 10 ^ (d.coefficient.log2 * 3 / 10) * 10 ^ d.exponent := by
          rw [zpow_add₀ (by norm_num), zpow_natCast]
      _ ≤ d.magnitude := mul_le_mul_of_nonneg_right hlog (by positivity)
  have hunit : (0 : ℚ) < 2 ^ f.unit := by positivity
  have hshift : (0 : ℚ) < 2 ^ f.maxShift := by positivity
  rw [← not_lt, Binary.lt_limit_iff, not_lt]
  calc ((2 : ℚ) ^ f.precision - 1 / 2) * 2 ^ f.maxShift
      ≤ 2 ^ f.precision * 2 ^ f.maxShift := mul_le_mul_of_nonneg_right (by linarith) hshift.le
    _ = 2 ^ (f.precision + f.maxShift) := (pow_add _ _ _).symm
    _ ≤ 2 ^ (1 <<< f.exponentBits + f.unit) := pow_le_pow_right₀ (by norm_num) hscale
    _ = 2 ^ (1 <<< f.exponentBits) * 2 ^ f.unit := pow_add _ _ _
    _ ≤ d.magnitude * 2 ^ f.unit := mul_le_mul_of_nonneg_right hpow hunit.le

/-- Decimals that are too small to be computed are below the first boundary above zero. -/
lemma magnitude_lt_of_leading (hp : 2 ≤ f.precision) (he : 2 ≤ f.exponentBits)
    (h : (d.coefficient.log2 * 3 / 10 : Nat) + d.exponent <
      -(2 * f.unit : Int) - d.coefficient.log2) :
    d.magnitude * 2 ^ f.unit < 1 / 2 := by
  have hunit : 0 < f.unit := by
    have htwo : 2 ^ 1 ≤ 1 <<< (f.exponentBits - 1) := by
      rw [Nat.one_shiftLeft]
      exact Nat.pow_le_pow_right (by decide) (by omega)
    unfold Format.unit
    omega
  obtain ⟨n, hn⟩ : ∃ n : Nat, d.exponent = -(n : Int) := ⟨(-d.exponent).toNat, by omega⟩
  have hcoefficient : (d.coefficient : ℚ) < 2 ^ (d.coefficient.log2 + 1) := by
    exact_mod_cast Nat.lt_log2_self
  have hten : (0 : ℚ) < 10 ^ n := by positivity
  have hpos : (0 : ℚ) < 2 ^ f.unit := by positivity
  rw [magnitude, hn, zpow_neg, zpow_natCast, ← div_eq_mul_inv, div_mul_eq_mul_div,
    div_lt_iff₀ hten]
  calc (d.coefficient : ℚ) * 2 ^ f.unit < 2 ^ (d.coefficient.log2 + 1) * 2 ^ f.unit :=
        mul_lt_mul_of_pos_right hcoefficient hpos
    _ = 1 / 2 * 2 ^ (d.coefficient.log2 + 1 + f.unit + 1) := by
        rw [← pow_add, pow_succ]
        ring
    _ ≤ 1 / 2 * 2 ^ n := by
        refine mul_le_mul_of_nonneg_left (pow_le_pow_right₀ (by norm_num) ?_) (by norm_num)
        omega
    _ ≤ 1 / 2 * 10 ^ n :=
        mul_le_mul_of_nonneg_left (pow_le_pow_left₀ (by norm_num) (by norm_num) n) (by norm_num)

/-- The fraction that is rounded is the decimal. -/
lemma magnitude_eq_div (d : Decimal) :
    d.magnitude = ((d.coefficient * Nat.pow 10 d.exponent.toNat : Nat) : ℚ) /
      (Nat.pow 10 (-d.exponent).toNat : Nat) := by
  rw [magnitude, ten_zpow, Nat.pow_eq, Nat.pow_eq]
  push_cast
  ring

/-- A decimal is rounded correctly. -/
theorem toBinary?_rounds (hp : 2 ≤ f.precision) (he : 2 ≤ f.exponentBits) (d : Decimal) :
    Binary.Rounds (f := f) d.negative d.magnitude d.toBinary? := by
  have hleading : (d.coefficient.log2 : Int) * 3 / 10 = (d.coefficient.log2 * 3 / 10 : Nat) := by
    push_cast
    rfl
  -- zero, far too large, far too small, or computed
  unfold toBinary?
  dsimp only
  rw [hleading]
  split
  · rename_i hzero
    refine Binary.rounds_zero hp _ d.magnitude_nonneg ?_
    rw [magnitude, hzero]
    norm_num
  · rename_i hne
    split
    · rename_i h
      exact limit_le_of_leading he hne h
    · split
      · rename_i h
        exact Binary.rounds_zero hp _ d.magnitude_nonneg (magnitude_lt_of_leading hp he h)
      · rw [magnitude_eq_div]
        exact Binary.round_rounds hp _ _ (by rw [Nat.pow_eq]; positivity)

end Decimal

end GridRows.Number
