import GridRows.Proofs.Number.Nearest

/-!
# Correct rounding

`Binary.round` has the number nearest to a fraction as its result (`Binary.round_rounds`), and it has none
exactly from the limit on, the middle between the largest finite number and the power of two behind it.
This settles what the result is (`Binary.Rounds.unique`).
-/

namespace GridRows.Number

/-- The middle between the largest finite number and the power of two that would follow it. -/
def Format.limit (f : Format) : ℚ := (2 ^ (f.precision + 1) - 1) * 2 ^ f.maxShift / 2 ^ (f.unit + 1)

namespace Binary

variable {f : Format}

/-- The result of rounding `± q`: the nearest number with that sign, nothing from the limit on. -/
def Rounds (negative : Bool) (q : ℚ) : Option (Binary f) → Prop
  | some x => q < f.limit ∧ x.negative = negative ∧ x.IsNearest (signed negative q)
  | none => f.limit ≤ q

/-- There is only one result that is correct. -/
theorem Rounds.unique (hp : 0 < f.precision) {negative : Bool} {q : ℚ} {x y : Option (Binary f)}
    (hx : Rounds negative q x) (hy : Rounds negative q y) : x = y := by
  cases x with
  | none =>
    cases y with
    | none => rfl
    | some y => exact absurd hy.1 (not_lt.mpr hx)
  | some x =>
    cases y with
    | none => exact absurd hx.1 (not_lt.mpr hy)
    | some y =>
      obtain ⟨-, rfl, hx⟩ := hx
      obtain ⟨-, hn, hy⟩ := hy
      rw [IsNearest.unique hp hn hx hy]

/-- The limit, scaled like the numbers of the format. -/
lemma lt_limit_iff {q : ℚ} :
    q < f.limit ↔ q * 2 ^ f.unit < (2 ^ f.precision - 1 / 2) * 2 ^ f.maxShift := by
  have hunit : (0 : ℚ) < 2 ^ f.unit := by positivity
  have hlimit : f.limit * 2 ^ f.unit = (2 ^ f.precision - 1 / 2) * 2 ^ f.maxShift := by
    rw [Format.limit, pow_succ, pow_succ]
    field_simp
  rw [← hlimit, mul_lt_mul_iff_left₀ hunit]

end Binary

/-! ## Rounding quotients -/

/-- The rounded quotient is within one half of the quotient, and even if it is that far from it. -/
lemma roundHalfEven_sub (num : Nat) {den : Nat} (hd : 0 < den) :
    |(roundHalfEven num den : ℚ) - num / den| ≤ 1 / 2 ∧
      (|(roundHalfEven num den : ℚ) - num / den| = 1 / 2 → Even (roundHalfEven num den)) := by
  have hdq : (0 : ℚ) < den := by exact_mod_cast hd
  have hquotient : (num : ℚ) / den = (num / den : Nat) + (num % den : Nat) / den := by
    have h : (num : ℚ) = den * (num / den : Nat) + (num % den : Nat) := by
      exact_mod_cast (Nat.div_add_mod num den).symm
    field_simp
    linarith
  have hrest : 0 ≤ ((num % den : Nat) : ℚ) / den := by positivity
  have hbelow : |((num / den : Nat) : ℚ) - num / den| = (num % den : Nat) / den := by
    rw [hquotient, sub_add_cancel_left, abs_neg, abs_of_nonneg hrest]
  have habove : |((num / den + 1 : Nat) : ℚ) - num / den| = 1 - (num % den : Nat) / den := by
    have hlt : ((num % den : Nat) : ℚ) / den < 1 := by
      rw [div_lt_one hdq]
      exact_mod_cast Nat.mod_lt _ hd
    rw [hquotient, abs_of_nonneg (by push_cast; linarith)]
    push_cast
    ring
  have hhalf : 2 * (num % den) < den ↔ ((num % den : Nat) : ℚ) / den < 1 / 2 := by
    rw [div_lt_iff₀ hdq, ← Nat.cast_lt (α := ℚ)]
    push_cast
    constructor <;> intro h <;> linarith
  have hhalf' : den < 2 * (num % den) ↔ 1 / 2 < ((num % den : Nat) : ℚ) / den := by
    rw [lt_div_iff₀ hdq, ← Nat.cast_lt (α := ℚ)]
    push_cast
    constructor <;> intro h <;> linarith
  -- below half of the divisor the rest is dropped, above half it counts as one more, at half parity decides
  unfold roundHalfEven
  dsimp only
  split
  · rename_i h
    rw [hbelow]
    have h := hhalf.mp h
    exact ⟨h.le, fun e => absurd e h.ne⟩
  · rename_i hle
    split
    · rename_i h
      rw [habove]
      have h := hhalf'.mp h
      exact ⟨by linarith, fun e => by linarith⟩
    · rename_i hge
      rw [hhalf, not_lt] at hle
      rw [hhalf', not_lt] at hge
      split
      · rename_i heven
        rw [hbelow]
        exact ⟨hge, fun _ => Nat.even_iff.mpr heven⟩
      · rename_i hodd
        rw [habove]
        exact ⟨by linarith, fun _ => (Nat.not_even_iff_odd.mp (mt Nat.even_iff.mp hodd)).add_one⟩

namespace Binary

variable {f : Format}

/-- Within half a step of `significand · 2 ^ shift` a number with that value is nearest. -/
lemma within_of_near {x : Binary f} {q : ℚ} {significand shift : Nat}
    (hx : x.scaled = significand * 2 ^ shift)
    (hnear : |significand * 2 ^ shift - q| ≤ 2 ^ shift / 2)
    (heven : |significand * 2 ^ shift - q| = 2 ^ shift / 2 → Even x.significand)
    (hstep : x.shift = shift ∧ (x.IsNarrow → (x.scaled : ℚ) ≤ q) ∨
      x.shift = shift + 1 ∧ x.IsNarrow) : x.Within q := by
  have hxq : (x.scaled : ℚ) = significand * 2 ^ shift := by exact_mod_cast hx
  have hpos : (0 : ℚ) < 2 ^ shift := by positivity
  rw [← hxq] at hnear heven
  obtain ⟨hlower, hupper⟩ := abs_le.mp hnear
  have htie : q = x.scaled - 2 ^ shift / 2 ∨ q = x.scaled + 2 ^ shift / 2 → Even x.significand := by
    rintro (rfl | rfl)
    · exact heven (by rw [sub_sub_cancel, abs_of_pos (by positivity)])
    · exact heven (by rw [sub_add_cancel_left, abs_neg, abs_of_pos (by positivity)])
  -- the shift is the one rounded with, or one greater because the significand was carried
  rcases hstep with ⟨hs, hn⟩ | ⟨hs, hn⟩
  · by_cases hnarrow : x.IsNarrow
    · have hle := hn hnarrow
      have hbelow := x.stepBelow_pos
      refine ⟨by linarith, by rw [hs]; linarith, ?_⟩
      rintro (h | h)
      · linarith
      · exact htie (.inr (by rw [h, hs]))
    · have hbelow : x.stepBelow = 2 ^ shift := by rw [stepBelow, if_neg hnarrow, hs]
      exact ⟨by linarith, by rw [hs]; linarith, by rw [hbelow, hs]; exact htie⟩
  · have hpow : (2 : ℚ) ^ x.shift = 2 * 2 ^ shift := by rw [hs, pow_succ, mul_comm]
    have hbelow : x.stepBelow = 2 ^ shift := by
      rw [stepBelow, if_pos hn, hpow]
      ring
    refine ⟨by linarith, by linarith, ?_⟩
    rintro (h | h)
    · exact htie (.inl (by linarith))
    · linarith

/-- The scale that rounding chooses: it leaves room for the significand, and no more than that. -/
lemma round_scale (num : Nat) {den : Nat} (hp : 0 < f.precision) (hd : 0 < den) :
    let shift := (num / den).log2 + 1 - f.precision
    (num : ℚ) / den < 2 ^ f.precision * 2 ^ shift ∧
      (shift ≠ 0 → 2 ^ (f.precision - 1) * 2 ^ shift ≤ (num : ℚ) / den) := by
  intro shift
  have hdq : (0 : ℚ) < den := by exact_mod_cast hd
  rw [← pow_add, ← pow_add]
  constructor
  · have hw : num / den < 2 ^ (f.precision + shift) :=
      Nat.lt_of_lt_of_le Nat.lt_log2_self (Nat.pow_le_pow_right (by decide) (by omega))
    rw [div_lt_iff₀ hdq]
    exact_mod_cast (Nat.div_lt_iff_lt_mul hd).mp hw
  · intro hs
    have hne : num / den ≠ 0 := by
      intro h
      have : shift = 0 := by simp only [shift, h, Nat.log2_zero]; omega
      exact hs this
    have hlog : f.precision - 1 + shift = (num / den).log2 := by omega
    have hw : 2 ^ (f.precision - 1 + shift) ≤ num / den := hlog ▸ Nat.log2_self_le hne
    rw [le_div_iff₀ hdq]
    exact_mod_cast (Nat.le_div_iff_mul_le hd).mp hw

/-! ## Rounding fractions -/

/--
The significand is `q`, scaled like the numbers of the format, divided by a power of two and rounded;
and the power of two is the one that leaves room for the significand, and no more than that.
-/
structure Fits (f : Format) (q : ℚ) (significand shift : Nat) : Prop where
  near : |significand * 2 ^ shift - q * 2 ^ f.unit| ≤ 2 ^ shift / 2
  even : |significand * 2 ^ shift - q * 2 ^ f.unit| = 2 ^ shift / 2 → Even significand
  upper : q * 2 ^ f.unit < 2 ^ f.precision * 2 ^ shift
  lower : shift ≠ 0 → 2 ^ (f.precision - 1) * 2 ^ shift ≤ q * 2 ^ f.unit

namespace Fits

variable {q : ℚ} {significand shift : Nat} (h : Fits f q significand shift)

include h

/-- Rounding carries a significand up to the next power of two at most. -/
lemma significand_le : significand ≤ 2 ^ f.precision := by
  have hpos : (0 : ℚ) < 2 ^ shift := by positivity
  have hnear := (abs_le.mp h.near).2
  have hupper := h.upper
  have hlt : (significand : ℚ) * 2 ^ shift < (2 ^ f.precision + 1) * 2 ^ shift := by linarith
  have hlt : (significand : ℚ) < 2 ^ f.precision + 1 := lt_of_mul_lt_mul_right hlt hpos.le
  exact Nat.lt_succ_iff.mp (by exact_mod_cast hlt)

/-- Above the smallest exponent rounding leaves a significand with all its digits. -/
lemma le_significand (hs : shift ≠ 0) : 2 ^ (f.precision - 1) ≤ significand := by
  have hpos : (0 : ℚ) < 2 ^ shift := by positivity
  have hnear := (abs_le.mp h.near).1
  have hlower := h.lower hs
  have hlt : (2 ^ (f.precision - 1) : ℚ) * 2 ^ shift < (significand + 1) * 2 ^ shift := by linarith
  have hlt : (2 ^ (f.precision - 1) : ℚ) < significand + 1 := lt_of_mul_lt_mul_right hlt hpos.le
  exact Nat.lt_succ_iff.mp (by exact_mod_cast hlt)

/-- Below the last scale nothing reaches the limit. -/
lemma lt_limit (hs : shift < f.maxShift) : q < f.limit := by
  have hpos : (0 : ℚ) < 2 ^ f.maxShift := by positivity
  have hnext : (2 : ℚ) * 2 ^ shift ≤ 2 ^ f.maxShift := by
    rw [← pow_succ']
    exact pow_le_pow_right₀ (by norm_num) hs
  have hone : (1 : ℚ) ≤ 2 ^ f.precision := one_le_pow₀ (by norm_num)
  rw [lt_limit_iff]
  calc q * 2 ^ f.unit < 2 ^ f.precision * 2 ^ shift := h.upper
    _ ≤ 2 ^ f.precision / 2 * 2 ^ f.maxShift := by
      have := mul_le_mul_of_nonneg_left hnext (zero_le_one.trans hone)
      linarith
    _ ≤ (2 ^ f.precision - 1 / 2) * 2 ^ f.maxShift :=
      mul_le_mul_of_nonneg_right (by linarith) hpos.le

/-- Behind the last scale everything is beyond the limit. -/
lemma limit_le (hp : 0 < f.precision) (hs : f.maxShift < shift) : f.limit ≤ q := by
  have hpos : (0 : ℚ) < 2 ^ f.maxShift := by positivity
  have hnext : (2 : ℚ) * 2 ^ f.maxShift ≤ 2 ^ shift := by
    rw [← pow_succ']
    exact pow_le_pow_right₀ (by norm_num) hs
  have hpow : (2 : ℚ) ^ f.precision = 2 ^ (f.precision - 1) * 2 := by
    rw [← pow_succ, Nat.sub_add_cancel hp]
  have hone : (0 : ℚ) < 2 ^ (f.precision - 1) := by positivity
  rw [← not_lt, lt_limit_iff, not_lt]
  calc (2 ^ f.precision - 1 / 2) * 2 ^ f.maxShift
      ≤ 2 ^ f.precision * 2 ^ f.maxShift := mul_le_mul_of_nonneg_right (by linarith) hpos.le
    _ = 2 ^ (f.precision - 1) * (2 * 2 ^ f.maxShift) := by rw [hpow]; ring
    _ ≤ 2 ^ (f.precision - 1) * 2 ^ shift := mul_le_mul_of_nonneg_left hnext hone.le
    _ ≤ q * 2 ^ f.unit := h.lower (Nat.ne_zero_of_lt hs)

/-- A significand that has one bit too many is a power of two, and belongs to the next scale. -/
lemma rounds_carry (hp : 2 ≤ f.precision) (negative : Bool) (hq : 0 ≤ q)
    (hsig : significand = 2 ^ f.precision) :
    Rounds (f := f) negative q (ofParts? negative (2 ^ (f.precision - 1)) (shift + 1)) := by
  have hpow : 2 ^ f.precision = 2 * 2 ^ (f.precision - 1) := by
    rw [← pow_succ', Nat.sub_add_cancel (by omega)]
  have hnear := h.near
  rw [hsig] at hnear
  push_cast at hnear
  have hroom : 2 ^ (f.precision - 1) < 2 ^ f.precision := Nat.pow_lt_pow_right (by decide) (by omega)
  rcases ofParts?_cases negative (shift + 1) hroom (fun _ => le_rfl) with
    ⟨hlt, he⟩ | ⟨hle, x, he, hn, hs, hx⟩
  · -- carried beyond the last exponent, the fraction is not below the limit
    have hscale : (2 : ℚ) ^ f.maxShift ≤ 2 ^ shift :=
      pow_le_pow_right₀ (by norm_num) (Nat.le_of_lt_succ hlt)
    have hone : (1 : ℚ) ≤ 2 ^ f.precision := one_le_pow₀ (by norm_num)
    have hnear := (abs_le.mp hnear).2
    rw [he, Rounds, ← not_lt, lt_limit_iff, not_lt]
    calc (2 ^ f.precision - 1 / 2) * 2 ^ f.maxShift
        ≤ (2 ^ f.precision - 1 / 2) * 2 ^ shift :=
          mul_le_mul_of_nonneg_left hscale (by linarith)
      _ ≤ q * 2 ^ f.unit := by linarith
  · have hscaled : x.scaled = 2 ^ f.precision * 2 ^ shift := by
      rw [scaled_eq, hs, hx, hpow, pow_succ]
      ring
    have heven : Even x.significand := by
      rw [hs]
      exact (even_two.pow_of_ne_zero (by omega))
    have hwithin : x.Within (q * 2 ^ f.unit) :=
      within_of_near hscaled (by exact_mod_cast hnear) (fun _ => heven)
        (.inr ⟨hx, hs, hx ▸ Nat.succ_ne_zero _⟩)
    rw [he]
    exact ⟨h.lt_limit hle, hn, hn ▸ isNearest_of_within (by omega) hq hwithin⟩

/-- At the last scale an odd significand does not reach up to the limit. -/
lemma lt_limit_last (hp : 0 < f.precision) (hsig : significand < 2 ^ f.precision)
    (hs : shift = f.maxShift) : q < f.limit := by
  have hpos : (0 : ℚ) < 2 ^ shift := by positivity
  have hnear := (abs_le.mp h.near).1
  have hle : (significand : ℚ) + 1 ≤ 2 ^ f.precision := by exact_mod_cast hsig
  have hmul := mul_le_mul_of_nonneg_right hle hpos.le
  rw [lt_limit_iff, ← hs]
  refine lt_of_le_of_ne (by linarith) fun e => ?_
  -- the limit is a tie between the last two significands, of which the first is odd
  have hlast : (significand : ℚ) + 1 = 2 ^ f.precision := by
    refine le_antisymm hle (le_of_mul_le_mul_right ?_ hpos)
    linarith
  have htie : |significand * 2 ^ shift - q * 2 ^ f.unit| = 2 ^ shift / 2 := by
    rw [e, ← hlast, abs_of_nonpos (by linarith)]
    ring
  have hodd : Even (significand + 1) := by
    have hlast : significand + 1 = 2 ^ f.precision := by exact_mod_cast hlast
    exact hlast ▸ even_two.pow_of_ne_zero (by omega)
  exact Nat.not_even_iff_odd.mpr (h.even htie).add_one hodd

/-- A significand within the precision is rounded correctly when it is put together. -/
lemma rounds (hp : 2 ≤ f.precision) (negative : Bool) (hq : 0 ≤ q)
    (hsig : significand < 2 ^ f.precision) :
    Rounds (f := f) negative q (ofParts? negative significand shift) := by
  rcases ofParts?_cases negative shift hsig h.le_significand with ⟨hlt, he⟩ | ⟨hle, x, he, hn, hs, hx⟩
  · rw [he]
    exact h.limit_le (by omega) hlt
  · have hscaled : x.scaled = significand * 2 ^ shift := by rw [scaled_eq, hs, hx]
    have hnarrow (hx' : x.IsNarrow) : (x.scaled : ℚ) ≤ q * 2 ^ f.unit := by
      have hlower := h.lower (hx ▸ hx'.2)
      rw [hscaled, ← hs, hx'.1]
      push_cast
      exact hlower
    have hwithin : x.Within (q * 2 ^ f.unit) :=
      within_of_near hscaled h.near (hs ▸ h.even) (.inl ⟨hx, hnarrow⟩)
    rw [he]
    refine ⟨?_, hn, hn ▸ isNearest_of_within (by omega) hq hwithin⟩
    rcases Nat.lt_or_eq_of_le hle with hlt | heq
    · exact h.lt_limit hlt
    · exact h.lt_limit_last (by omega) hsig heq

end Fits

/-- A fraction is rounded correctly. -/
theorem round_rounds (hp : 2 ≤ f.precision) (negative : Bool) (num : Nat) {den : Nat}
    (hd : 0 < den) : Rounds (f := f) negative (num / den) (round negative num den) := by
  have hq : (0 : ℚ) ≤ num / den := by positivity
  have hdq : (den : ℚ) ≠ 0 := by exact_mod_cast hd.ne'
  have hscaled : ((num <<< f.unit : Nat) : ℚ) / den = num / den * 2 ^ f.unit := by
    rw [Nat.shiftLeft_eq]
    push_cast
    ring
  unfold round
  dsimp only
  generalize hs : (num <<< f.unit / den).log2 + 1 - f.precision = shift
  generalize hsig : roundHalfEven (num <<< f.unit) (den <<< shift) = significand
  have hfits : Fits f (num / den) significand shift := by
    obtain ⟨hupper, hlower⟩ := round_scale (num <<< f.unit) (by omega : 0 < f.precision) hd
    rw [hscaled, hs] at hupper hlower
    have hden : 0 < den <<< shift := by
      rw [Nat.shiftLeft_eq]
      positivity
    obtain ⟨hnear, heven⟩ := roundHalfEven_sub (num <<< f.unit) hden
    have hpos : (0 : ℚ) < 2 ^ shift := by positivity
    have hdist : |(significand : ℚ) * 2 ^ shift - num / den * 2 ^ f.unit| =
        |(significand : ℚ) - (num <<< f.unit : Nat) / (den <<< shift : Nat)| * 2 ^ shift := by
      rw [← abs_of_pos hpos, ← abs_mul, abs_of_pos hpos, ← hscaled, Nat.shiftLeft_eq den]
      congr 1
      push_cast
      field_simp
    rw [hsig] at hnear heven
    refine ⟨?_, fun e => heven ?_, hupper, hlower⟩
    · rw [hdist]
      have := mul_le_mul_of_nonneg_right hnear hpos.le
      linarith
    · rw [hdist] at e
      refine mul_right_cancel₀ hpos.ne' ?_
      linarith
  -- rounding up can carry into a bit that the significand has no room for
  simp only [Nat.one_shiftLeft]
  split
  · rename_i h
    exact hfits.rounds_carry hp negative hq h
  · rename_i h
    exact hfits.rounds hp negative hq (lt_of_le_of_ne hfits.significand_le h)

/-- What lies below the first boundary above zero is rounded to zero. -/
lemma rounds_zero (hp : 2 ≤ f.precision) (negative : Bool) {q : ℚ} (hq : 0 ≤ q)
    (h : q * 2 ^ f.unit < 1 / 2) : Rounds negative q (some (zero negative : Binary f)) := by
  have hscaled : ((zero negative : Binary f).scaled : ℚ) = 0 := by simp [scaled, zero]
  have hpos : 0 ≤ q * 2 ^ f.unit := by positivity
  have hwithin : (zero negative : Binary f).Within (q * 2 ^ f.unit) := by
    refine ⟨?_, ?_, fun _ => ?_⟩
    · rw [hscaled]
      linarith [(zero negative : Binary f).stepBelow_pos]
    · rw [hscaled, zero, pow_zero]
      linarith
    · exact Even.zero
  refine ⟨?_, rfl, isNearest_of_within (by omega) hq hwithin⟩
  have hprecision : (1 : ℚ) ≤ 2 ^ f.precision := one_le_pow₀ (by norm_num)
  have hshift : (1 : ℚ) ≤ 2 ^ f.maxShift := one_le_pow₀ (by norm_num)
  rw [lt_limit_iff]
  nlinarith

/-- Every finite number is below the limit. -/
lemma magnitude_lt_limit (x : Binary f) : x.magnitude < f.limit := by
  have hunit : (2 : ℚ) ^ f.unit ≠ 0 := by positivity
  have hlast : (0 : ℚ) < 2 ^ f.maxShift := by positivity
  have hsignificand : (x.significand : ℚ) + 1 ≤ 2 ^ f.precision := by
    exact_mod_cast x.significand_lt_pow
  have hshift : (2 : ℚ) ^ x.shift ≤ 2 ^ f.maxShift :=
    pow_le_pow_right₀ (by norm_num) x.shift_le
  rw [lt_limit_iff, magnitude, div_mul_cancel₀ _ hunit, scaled_eq]
  push_cast
  calc (x.significand : ℚ) * 2 ^ x.shift ≤ x.significand * 2 ^ f.maxShift :=
        mul_le_mul_of_nonneg_left hshift (Nat.cast_nonneg _)
    _ < (2 ^ f.precision - 1 / 2) * 2 ^ f.maxShift :=
        mul_lt_mul_of_pos_right (by linarith) hlast

/-- A power of two below the last scale is below the limit. -/
lemma lt_limit_of_lt {q : ℚ} {k : Nat} (hp : 0 < f.precision) (hq : q < 2 ^ k)
    (hk : k + f.unit ≤ f.maxShift) : q < f.limit := by
  have hunit : (0 : ℚ) < 2 ^ f.unit := by positivity
  have hpos : (0 : ℚ) < 2 ^ f.maxShift := by positivity
  have htwo : (2 : ℚ) ≤ 2 ^ f.precision := le_self_pow₀ (by norm_num) (by omega)
  rw [lt_limit_iff]
  calc q * 2 ^ f.unit < 2 ^ k * 2 ^ f.unit := mul_lt_mul_of_pos_right hq hunit
    _ = 2 ^ (k + f.unit) := (pow_add _ _ _).symm
    _ ≤ 2 ^ f.maxShift := pow_le_pow_right₀ (by norm_num) hk
    _ ≤ (2 ^ f.precision - 1 / 2) * 2 ^ f.maxShift := by nlinarith

end Binary

end GridRows.Number
