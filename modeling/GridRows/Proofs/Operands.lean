import GridRows.Proofs.Filter
import GridRows.Proofs.Json.Literal

/-!
# Numbers as filters keep them

A filter keeps the value of each number that it compares with (`value_wholeIfExact`).  A whole number of
magnitude below `9 · 10 ^ 15` is kept in one form only (`wholeIfExact_eq_integer`), so what is kept of it
does not show how it was written.
-/

namespace GridRows

open Json (Number)
open Number (Binary signed)

/-- A sign may be given before or after an integer is taken as a rational number. -/
lemma Number.cast_signed (negative : Bool) (k : Nat) :
    ((if negative then -(k : Int) else k : Int) : ℚ) = signed negative k := by
  cases negative with
  | false => rfl
  | true => exact Int.cast_neg _

/-- A binary number is found to be whole if it is. -/
lemma Number.Binary.toInt?_eq_some {f : Number.Format} {x : Binary f} {n : Int} :
    x.toInt? = some n ↔ x.value = n := by
  have hunit : (2 : ℚ) ^ f.unit ≠ 0 := by positivity
  unfold toInt?
  rw [Nat.one_shiftLeft]
  constructor
  · intro h
    split at h
    · rename_i hmod
      have hscaled : x.scaled = x.scaled / 2 ^ f.unit * 2 ^ f.unit :=
        (Nat.div_mul_cancel (Nat.dvd_of_mod_eq_zero hmod)).symm
      have hmagnitude : x.magnitude = (x.scaled / 2 ^ f.unit : Nat) := by
        rw [magnitude, div_eq_iff hunit]
        exact_mod_cast hscaled
      rw [value, hmagnitude, ← Number.cast_signed]
      exact congrArg Int.cast (Option.some.inj h)
    · cases h
  · intro h
    have hmagnitude : x.magnitude = n.natAbs := by
      rw [← abs_value, h, Nat.cast_natAbs, Int.cast_abs]
    have hscaled : x.scaled = n.natAbs * 2 ^ f.unit := by
      rw [magnitude, div_eq_iff hunit] at hmagnitude
      exact_mod_cast hmagnitude
    rw [hscaled, Nat.mul_mod_left, if_pos rfl, Nat.mul_div_cancel _ (Nat.two_pow_pos _)]
    rw [value, hmagnitude, ← Number.cast_signed] at h
    exact congrArg some (Int.cast_injective h)

/-- Making a number whole where it can be does not change what it is worth. -/
lemma value_wholeIfExact (n : Number) : (wholeIfExact n).value = n.value := by
  cases n with
  | integer k fits => rfl
  | float x =>
    unfold wholeIfExact
    dsimp only
    split
    · rename_i k hk
      split
      · exact (Binary.toInt?_eq_some.mp hk).symm
      · rfl
    · rfl

/-- A small whole number is kept as one, whatever form it comes in. -/
lemma wholeIfExact_eq_integer {n : Number} {m : Int} (hvalue : n.value = m)
    (hm : |m| < 9_000_000_000_000_000) : ∃ fits, wholeIfExact n = .integer m fits := by
  cases n with
  | integer k fits =>
    obtain rfl : k = m := Int.cast_injective hvalue
    exact ⟨fits, rfl⟩
  | float x =>
    have hint : x.toInt? = some m := Binary.toInt?_eq_some.mpr hvalue
    have hnatAbs : m.natAbs < 9_000_000_000_000_000 := by
      zify
      exact hm
    unfold wholeIfExact
    dsimp only
    rw [hint]
    dsimp only
    rw [dif_pos hnatAbs]
    exact ⟨_, rfl⟩

/-- Only a binary number that is not whole, or large, stays one. -/
lemma wholeIfExact_eq_float {n : Number} {x : Number.Double} (h : wholeIfExact n = .float x) :
    n = .float x ∧ ((∀ k : Int, x.value ≠ k) ∨ 9_000_000_000_000_000 ≤ |x.value|) := by
  have hn : n = .float x := by
    rcases wholeIfExact_cases n with hsame | ⟨k, fits, hwhole⟩
    · exact hsame.symm.trans h
    · cases hwhole.symm.trans h
  refine ⟨hn, or_iff_not_imp_right.mpr fun hsmall k hk => ?_⟩
  rw [hk] at hsmall
  have hm : |k| < 9_000_000_000_000_000 := by exact_mod_cast not_le.mp hsmall
  obtain ⟨fits, hwhole⟩ := wholeIfExact_eq_integer (n := n) (hn ▸ hk) hm
  cases hwhole.symm.trans h

end GridRows
