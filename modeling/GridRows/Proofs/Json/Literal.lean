import GridRows.Json.Literal
import GridRows.Proofs.Number.Digits
import GridRows.Proofs.Number.Exact

/-!
# What literals are worth

A literal is worth the decimal that it spells (`Literal.value`).  It is read in steps: the digits that a
word holds are kept, and they are scaled by a power of ten.  If nothing but zeros is dropped, and the kept
digits are a binary number, then a small whole number comes out of the steps as it is
(`Literal.toNumber?_whole`).  Up to fifty-three bits of digits are always kept so
(`Literal.isKept_of_le`).
-/

namespace GridRows.Json

open GridRows.Number (Binary Double Format abs_signed digitValue natOfDigits natOfDigits_append
  natOfDigits_cons signed signed_true)

/-! ## Digits that are kept -/

namespace Significand

variable {s : Significand}

/-- A digit is taken in if the word holds the digits with it. -/
lemma push?_eq {c : Char} (exponent : Int) (h : 10 * s.digits + digitValue c < 0x10000000000000000) :
    s.push? c exponent = some ⟨10 * s.digits + digitValue c, exponent⟩ := if_pos h

/-- Digits that are taken in fit the word. -/
lemma lt_of_push? {c : Char} {exponent : Int} {next : Significand}
    (h : s.push? c exponent = some next) : next.digits < 0x10000000000000000 := by
  unfold push? at h
  dsimp only at h
  split at h
  · cases h
    assumption
  · cases h

/-- Without digits nothing is added. -/
lemma addWhole_nil : s.addWhole [] = s := rfl

/-- Without digits nothing is added. -/
lemma addFraction_nil : s.addFraction [] = s := rfl

-- stated by hand: the equations of these two take the comparison with the size of a word apart
/-- Of the whole part, digits that no longer fit only scale the number. -/
lemma addWhole_cons (c : Char) (cs : List Char) : s.addWhole (c :: cs) =
    match s.push? c s.exponent with
    | some next => next.addWhole cs
    | none => ⟨s.digits, s.exponent + (cs.length + 1)⟩ := by
  rfl

/-- Of the fraction, digits that no longer fit are dropped. -/
lemma addFraction_cons (c : Char) (cs : List Char) : s.addFraction (c :: cs) =
    match s.push? c (s.exponent - 1) with
    | some next => next.addFraction cs
    | none => s := by
  rfl

/-- What a digit adds to the number that those behind it complete. -/
lemma total_cons (n : Nat) (c : Char) (cs : List Char) :
    n * 10 ^ (c :: cs).length + natOfDigits (c :: cs) =
      (10 * n + digitValue c) * 10 ^ cs.length + natOfDigits cs := by
  rw [natOfDigits_cons, List.length_cons]
  ring

/-- If all digits together fit the word, so does the next one. -/
lemma next_lt {n : Nat} {c : Char} {cs : List Char}
    (h : n * 10 ^ (c :: cs).length + natOfDigits (c :: cs) < 0x10000000000000000) :
    10 * n + digitValue c < 0x10000000000000000 := by
  rw [total_cons] at h
  have hle := Nat.le_mul_of_pos_right (10 * n + digitValue c)
    (Nat.pow_pos (n := cs.length) (by decide : 0 < 10))
  omega

/-- Digits before the point that a word holds are all kept. -/
lemma addWhole_eq {cs : List Char}
    (h : s.digits * 10 ^ cs.length + natOfDigits cs < 0x10000000000000000) :
    s.addWhole cs = ⟨s.digits * 10 ^ cs.length + natOfDigits cs, s.exponent⟩ := by
  induction cs generalizing s with
  | nil => simp [addWhole_nil, natOfDigits]
  | cons c cs ih =>
    rw [addWhole_cons, push?_eq _ (next_lt h), total_cons]
    rw [total_cons] at h
    exact ih h

/-- Digits after the point that a word holds are all kept. -/
lemma addFraction_eq {cs : List Char}
    (h : s.digits * 10 ^ cs.length + natOfDigits cs < 0x10000000000000000) :
    s.addFraction cs =
      ⟨s.digits * 10 ^ cs.length + natOfDigits cs, s.exponent - cs.length⟩ := by
  induction cs generalizing s with
  | nil => simp [addFraction_nil, natOfDigits]
  | cons c cs ih =>
    have hexponent : s.exponent - (c :: cs).length = s.exponent - 1 - cs.length := by
      rw [List.length_cons]
      omega
    rw [addFraction_cons, push?_eq _ (next_lt h), total_cons, hexponent]
    rw [total_cons] at h
    exact ih h

/-- The digits of a whole part stay within the word. -/
lemma addWhole_lt (h : s.digits < 0x10000000000000000) (cs : List Char) :
    (s.addWhole cs).digits < 0x10000000000000000 := by
  induction cs generalizing s with
  | nil => exact h
  | cons c cs ih =>
    rw [addWhole_cons]
    cases hnext : s.push? c s.exponent with
    | none => exact h
    | some next => exact ih (lt_of_push? hnext)

/-- The digits of a fraction stay within the word. -/
lemma addFraction_lt (h : s.digits < 0x10000000000000000) (cs : List Char) :
    (s.addFraction cs).digits < 0x10000000000000000 := by
  induction cs generalizing s with
  | nil => exact h
  | cons c cs ih =>
    rw [addFraction_cons]
    cases hnext : s.push? c (s.exponent - 1) with
    | none => exact h
    | some next => exact ih (lt_of_push? hnext)

end Significand

/-! ## Scaling -/

/-- The powers of ten whose odd part has no bit too many. -/
lemma exists_powerOfTen {k : Nat} (hk : k ≤ 22) : ∃ y : Double, y.magnitude = (10 ^ k : Nat) := by
  have hfive : 5 ^ k < 2 ^ Format.double.precision :=
    (Nat.pow_le_pow_right (by decide) hk).trans_lt (by decide)
  have hunit : Format.double.unit = 1074 := rfl
  have hlast : Format.double.maxShift = 2045 := rfl
  have hne : (2 : ℚ) ^ Format.double.unit ≠ 0 := by positivity
  have hten : 10 ^ k = 5 ^ k * 2 ^ k := by rw [← Nat.mul_pow]
  have hshift : k + Format.double.unit ≤ Format.double.maxShift := by omega
  obtain ⟨y, -, hy⟩ := Binary.exists_scaled_eq (by decide) false hfive hshift
  refine ⟨y, ?_⟩
  rw [Binary.magnitude, hy, pow_add, hten]
  push_cast
  rw [← mul_assoc, mul_div_cancel_right₀ _ hne]

/-- The small powers of ten are themselves binary numbers. -/
lemma magnitude_powerOfTen {k : Nat} (hk : k ≤ 22) : (powerOfTen k).magnitude = 10 ^ k := by
  obtain ⟨x, hx, -, hvalue⟩ := Binary.ofNat?_exact (f := Format.double) (by decide) (exists_powerOfTen hk)
  have hpower : powerOfTen k = x := by
    unfold powerOfTen
    rw [show Nat.pow 10 k = 10 ^ k from rfl, hx, Option.getD_some]
  rw [hpower, hvalue]
  push_cast
  rfl

/-- A word has no room for more digits. -/
lemma exponent_le {m k : Nat} (hm : 0 < m) (h : m * 10 ^ k < 10 ^ 23) : k ≤ 22 := by
  have hpow : 10 ^ k < 10 ^ 23 := (Nat.le_mul_of_pos_left _ hm).trans_lt h
  exact Nat.le_of_lt_succ ((Nat.pow_lt_pow_iff_right (by decide)).mp hpow)

section Scaling

variable {x : Double} {n k : Nat} (hn : n ≤ 2 ^ 53)
include hn

/-- A whole number of 53 bits is itself a binary number. -/
lemma exists_small : ∃ y : Double, y.magnitude = n :=
  Binary.exists_magnitude_eq (by decide) (by decide) hn

/-- A small whole number is the result if it is what the product is worth. -/
lemma scaleUp_exact (hx : ∃ m : Nat, x.magnitude = m) (h : x.magnitude * 10 ^ k = n) :
    ∃ z, scaleUp x k = some z ∧ z.magnitude = n := by
  unfold scaleUp
  by_cases hzero : x.isZero
  · rw [if_pos hzero]
    rw [← Binary.magnitude_eq_zero] at hzero
    rw [hzero, zero_mul] at h
    exact ⟨x, rfl, hzero.trans h⟩
  · rw [if_neg hzero]
    rw [← Binary.magnitude_eq_zero] at hzero
    obtain ⟨m, hm⟩ := hx
    have hproduct : m * 10 ^ k = n := by
      rw [hm] at h
      exact_mod_cast h
    have hpos : 0 < m := by
      rw [Nat.pos_iff_ne_zero]
      rintro rfl
      exact hzero hm
    have hk : k ≤ 22 := exponent_le hpos (by omega)
    have hten := magnitude_powerOfTen hk
    rw [← hten] at h
    rw [if_pos (hk.trans (by decide)), ← h]
    exact Binary.mul_exact (by decide) (h ▸ exists_small hn)

/-- A small whole number is the result if it is what the quotient is worth. -/
lemma scaleDown_exact (hx : x.magnitude < 2 ^ 64) (h : x.magnitude = n * 10 ^ k) :
    ∃ z, scaleDown x k = some z ∧ z.magnitude = n := by
  rw [scaleDown]
  by_cases hzero : x.isZero
  · rw [if_pos hzero]
    rw [← Binary.magnitude_eq_zero] at hzero
    have hpow : (10 : ℚ) ^ k ≠ 0 := by positivity
    rw [hzero, zero_eq_mul, or_iff_left hpow] at h
    exact ⟨x, rfl, hzero.trans h.symm⟩
  · rw [if_neg hzero]
    rw [← Binary.magnitude_eq_zero] at hzero
    have hlt : n * 10 ^ k < 2 ^ 64 := by
      rw [h] at hx
      exact_mod_cast hx
    have hpos : 0 < n := by
      rw [Nat.pos_iff_ne_zero]
      rintro rfl
      rw [Nat.cast_zero, zero_mul] at h
      exact hzero h
    have hk : k ≤ 22 := exponent_le hpos (by omega)
    have hten := magnitude_powerOfTen hk
    have hne : (powerOfTen k).magnitude ≠ 0 := by
      rw [hten]
      positivity
    have hquotient : x.magnitude / (powerOfTen k).magnitude = n := by
      rw [h, ← hten, mul_div_cancel_right₀ _ hne]
    rw [if_pos (hk.trans (by decide)), ← hquotient]
    exact Binary.div_exact (by decide) hne (hquotient ▸ exists_small hn)

end Scaling

/-! ## Values -/

/-- The value of a number. -/
def Number.value : Number → ℚ
  | .integer n _ => n
  | .float x => x.value

namespace Literal

/-- The digits that are kept, and the power of ten that the point leaves them with. -/
def kept (l : Literal) : Significand :=
  ((⟨0, 0⟩ : Significand).addWhole l.whole).addFraction (l.fraction.getD [])

/-- What the literal is worth without its sign. -/
def magnitude (l : Literal) : ℚ :=
  natOfDigits (l.whole ++ l.fraction.getD []) *
    10 ^ (l.exponentValue - (l.fraction.getD []).length)

/-- What the literal is worth. -/
def value (l : Literal) : ℚ := signed l.negative l.magnitude

/-- Nothing but zeros is dropped, and the digits that are kept are a binary number. -/
structure IsKept (l : Literal) : Prop where
  magnitude_eq : (l.kept.digits : ℚ) * 10 ^ (l.kept.exponent + l.exponentValue) = l.magnitude
  binary : ∃ y : Double, y.magnitude = l.kept.digits

variable {l : Literal}

/-- Up to fifty-three bits of digits are kept. -/
lemma isKept_of_le (h : natOfDigits (l.whole ++ l.fraction.getD []) ≤ 2 ^ 53) : l.IsKept := by
  have hkept : l.kept = ⟨natOfDigits (l.whole ++ l.fraction.getD []), -(l.fraction.getD []).length⟩ := by
    rw [natOfDigits_append] at h ⊢
    have hpow := Nat.le_mul_of_pos_right (natOfDigits l.whole)
      (Nat.pow_pos (n := (l.fraction.getD []).length) (by decide : 0 < 10))
    rw [kept, Significand.addWhole_eq (by simp only [Nat.zero_mul, Nat.zero_add]; omega)]
    simp only [Nat.zero_mul, Nat.zero_add]
    rw [Significand.addFraction_eq (by simp only; omega)]
    simp only [zero_sub]
  constructor
  · rw [hkept, magnitude, neg_add_eq_sub]
  · rw [hkept]
    exact exists_small h

/-- The digits that the reader keeps fit a word. -/
lemma kept_lt (l : Literal) : l.kept.digits < 0x10000000000000000 :=
  Significand.addFraction_lt (Significand.addWhole_lt (by decide) _) _

/-- A literal that is kept stands for the small whole number that it is worth. -/
lemma toDouble?_exact (h : l.IsKept) {n : Nat} (hn : n ≤ 2 ^ 53) (hvalue : l.magnitude = n) :
    ∃ x, l.toDouble? = some x ∧ x.value = signed l.negative n := by
  obtain ⟨x, hx, -, hdigits⟩ := Binary.ofNat?_exact (f := Format.double) (by decide) h.binary
  have hscaled : ∃ z, Significand.toDouble? ⟨l.kept.digits, l.kept.exponent + l.exponentValue⟩ =
      some z ∧ z.magnitude = n := by
    -- the digits are read exactly, so what is left is one step of scaling, up or down
    have hworth := h.magnitude_eq.trans hvalue
    unfold Significand.toDouble?
    rw [hx, Option.bind_eq_bind, Option.bind_some]
    generalize l.kept.exponent + l.exponentValue = exponent at hworth ⊢
    rw [← hdigits] at hworth
    dsimp only
    split
    · rename_i hexponent
      obtain ⟨k, rfl⟩ := Int.eq_ofNat_of_zero_le hexponent
      rw [zpow_natCast] at hworth
      exact scaleUp_exact hn ⟨_, hdigits⟩ hworth
    · rename_i hexponent
      obtain ⟨k, hk⟩ := Int.eq_ofNat_of_zero_le (by omega : 0 ≤ -exponent)
      have hpow : (10 : ℚ) ^ k ≠ 0 := by positivity
      have hword : x.magnitude < 2 ^ 64 := by
        rw [hdigits]
        exact_mod_cast l.kept_lt
      rw [hk, Int.toNat_natCast]
      refine scaleDown_exact hn hword ?_
      rw [← hworth, ← neg_neg exponent, hk, zpow_neg, zpow_natCast, mul_assoc, inv_mul_cancel₀ hpow,
        mul_one]
  obtain ⟨z, hz, hmagnitude⟩ := hscaled
  refine ⟨z.withSign l.negative, ?_, ?_⟩
  · unfold toDouble?
    change (Significand.toDouble? ⟨l.kept.digits, l.kept.exponent + l.exponentValue⟩).bind _ = _
    rw [hz]
    rfl
  · rw [Binary.value_withSign, hmagnitude]

/-- A literal that is read as a whole number is worth it. -/
lemma value_of_toInt? {m : Int} (h : l.toInt? = some m) : l.value = m := by
  unfold toInt? at h
  split at h
  · cases h
  · rename_i hplain
    obtain ⟨hfraction, hexponent⟩ : l.fraction = none ∧ l.exponent = none := by
      simpa using hplain
    have hmagnitude : l.magnitude = natOfDigits l.whole := by
      simp [magnitude, hfraction, exponentValue, hexponent]
    rw [value, hmagnitude]
    dsimp only at h
    cases hnegative : l.negative with
    | false =>
      rw [if_pos (by simp [hnegative])] at h
      cases h
      rfl
    | true =>
      rw [if_neg (by simp [hnegative])] at h
      split at h
      · cases h
      · cases h
        rw [signed_true]
        push_cast
        rfl

/-- What a literal is worth without its sign is not negative. -/
lemma magnitude_nonneg (l : Literal) : 0 ≤ l.magnitude := by
  unfold magnitude
  positivity

/-- A small whole number is what a kept literal of it is read as, in whatever way. -/
lemma toNumber?_whole (h : l.IsKept) {m : Int} (hm : |m| ≤ 2 ^ 53) (hvalue : l.value = m) :
    ∃ n, l.toNumber? = some n ∧ n.value = m := by
  have hnatAbs : m.natAbs ≤ 2 ^ 53 := by
    zify
    exact hm
  have hmagnitude : l.magnitude = m.natAbs := by
    rw [← abs_signed l.negative l.magnitude_nonneg, Nat.cast_natAbs, Int.cast_abs, ← hvalue, value]
  unfold toNumber?
  cases hint : l.toInt? with
  | some k =>
    have hk : k = m := by
      have := (value_of_toInt? hint).symm.trans hvalue
      exact_mod_cast this
    subst hk
    have hfits : FitsWord k := by
      obtain ⟨hlow, hhigh⟩ := abs_le.mp hm
      exact ⟨by omega, by omega⟩
    refine ⟨.integer k hfits, ?_, rfl⟩
    rw [Option.bind_some, Number.ofInt?, dif_pos hfits]
    rfl
  | none =>
    obtain ⟨x, hx, hxvalue⟩ := toDouble?_exact h hnatAbs hmagnitude
    refine ⟨.float x, ?_, ?_⟩
    · rw [hx]
      rfl
    · rw [← hvalue, value, hmagnitude]
      exact hxvalue

end Literal

end GridRows.Json
