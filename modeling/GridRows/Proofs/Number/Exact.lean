import GridRows.Proofs.Number.Rounding

/-!
# Results that are not rounded

A fraction that is a number of the format is rounded to itself (`Binary.round_exact`), so a product or a
quotient is exact if the format has a number for it.  Whether it has one is a matter of the size alone.
-/

namespace GridRows.Number.Binary

variable {f : Format}

/-- The sign of a number does not change its magnitude. -/
lemma magnitude_withSign (negative : Bool) (x : Binary f) :
    (x.withSign negative).magnitude = x.magnitude := rfl

/-- A number with a sign is worth its magnitude with that sign. -/
lemma value_withSign (negative : Bool) (x : Binary f) :
    (x.withSign negative).value = signed negative x.magnitude := rfl

/-- Only zeros have no magnitude. -/
lemma magnitude_eq_zero {x : Binary f} : x.magnitude = 0 ↔ x.isZero := by
  have hunit : (2 : ℚ) ^ f.unit ≠ 0 := by positivity
  have hshift : 2 ^ x.shift ≠ 0 := (Nat.two_pow_pos _).ne'
  rw [magnitude, div_eq_zero_iff, or_iff_left hunit, Nat.cast_eq_zero, scaled_eq, Nat.mul_eq_zero,
    or_iff_left hshift, isZero, beq_iff_eq]

/-- The numbers up to the first one with a bit too many, without a sign. -/
lemma exists_magnitude_eq (hp : 0 < f.precision) (hk : f.precision + f.unit ≤ f.maxShift) {n : Nat}
    (hn : n ≤ 2 ^ f.precision) : ∃ x : Binary f, x.magnitude = n := by
  have habs : |(n : Int)| ≤ 2 ^ f.precision := by
    rw [Nat.abs_cast]
    exact_mod_cast hn
  obtain ⟨x, hx⟩ := exists_value_eq hp hk habs
  refine ⟨x, ?_⟩
  rw [← abs_value, hx, Int.cast_natCast, Nat.abs_cast]

section Exact

variable (hp : 2 ≤ f.precision)
include hp

/-- A quotient that is the magnitude of a binary number is rounded to that. -/
lemma round_exact (negative : Bool) {num den : Nat} (hd : 0 < den)
    (h : ∃ y : Binary f, y.magnitude = num / den) :
    ∃ x : Binary f, round negative num den = some x ∧ x.negative = negative ∧
      x.magnitude = num / den := by
  obtain ⟨y, hy⟩ := h
  have hrounds := round_rounds hp negative num hd
  cases hx : round negative num den with
  | none =>
    rw [hx] at hrounds
    exact absurd (hy ▸ y.magnitude_lt_limit) (not_lt.mpr hrounds)
  | some x =>
    rw [hx] at hrounds
    obtain ⟨-, hnegative, hnearest⟩ := hrounds
    rw [← hy, ← value_withSign] at hnearest
    refine ⟨x, rfl, hnegative, ?_⟩
    rw [← abs_value, hnearest.value_eq, abs_value, magnitude_withSign, hy]

/-- A natural number that is the magnitude of a binary number is converted to that. -/
lemma ofNat?_exact {n : Nat} (h : ∃ y : Binary f, y.magnitude = n) :
    ∃ x : Binary f, ofNat? n = some x ∧ x.negative = false ∧ x.magnitude = n := by
  have hone : (n : ℚ) = n / (1 : Nat) := by rw [Nat.cast_one, div_one]
  rw [hone] at h ⊢
  exact round_exact hp false Nat.one_pos h

/-- A product that is the magnitude of a binary number is computed as that. -/
lemma mul_exact {x y : Binary f} (h : ∃ z : Binary f, z.magnitude = x.magnitude * y.magnitude) :
    ∃ z : Binary f, x.mul y = some z ∧ z.magnitude = x.magnitude * y.magnitude := by
  have hproduct : x.magnitude * y.magnitude =
      (x.scaled * y.scaled : Nat) / (1 <<< (2 * f.unit) : Nat) := by
    rw [magnitude, magnitude, Nat.one_shiftLeft, Nat.two_mul, pow_add]
    push_cast
    field_simp
  have hd : 0 < 1 <<< (2 * f.unit) := by
    rw [Nat.one_shiftLeft]
    exact Nat.two_pow_pos _
  rw [hproduct] at h ⊢
  obtain ⟨z, hz, -, hvalue⟩ := round_exact hp (x.negative ^^ y.negative) hd h
  exact ⟨z, hz, hvalue⟩

/-- A quotient that is the magnitude of a binary number is computed as that. -/
lemma div_exact {x y : Binary f} (hy : y.magnitude ≠ 0)
    (h : ∃ z : Binary f, z.magnitude = x.magnitude / y.magnitude) :
    ∃ z : Binary f, x.div y = some z ∧ z.magnitude = x.magnitude / y.magnitude := by
  have hunit : (2 : ℚ) ^ f.unit ≠ 0 := by positivity
  have hscaled : y.scaled ≠ 0 := by
    intro hzero
    rw [magnitude, hzero, Nat.cast_zero, zero_div] at hy
    exact hy rfl
  have hquotient : x.magnitude / y.magnitude = x.scaled / y.scaled := by
    rw [magnitude, magnitude, div_div_div_cancel_right₀ hunit]
  rw [hquotient] at h ⊢
  obtain ⟨z, hz, -, hvalue⟩ := round_exact hp (x.negative ^^ y.negative) (Nat.pos_of_ne_zero hscaled) h
  exact ⟨z, hz, hvalue⟩

end Exact

end GridRows.Number.Binary
