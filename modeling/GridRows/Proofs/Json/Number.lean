import GridRows.Json.Number
import Mathlib.Tactic.Lemma

/-!
# The characters of number texts

A number is written with digits, a sign, a point and an exponent, so no text around it can take a part
of it for a quote or a separator (`Number.text_chars`).
-/

namespace GridRows.Json

/-- A character that number texts are made of. -/
def IsNumeral (c : Char) : Prop := c.isDigit ∨ c ∈ ['-', '+', '.', 'e']

namespace Number

/-- Decimal digits are characters of numbers. -/
lemma isNumeral_digits {n : Nat} {c : Char} (h : c ∈ Nat.toDigits 10 n) : IsNumeral c :=
  .inl (Nat.isDigit_of_mem_toDigits (by decide) (by decide) h)

/-- Zeros that fill a place are characters of numbers. -/
lemma isNumeral_zeros {n : Nat} {c : Char} (h : c ∈ List.replicate n '0') : IsNumeral c := by
  rw [List.eq_of_mem_replicate h]
  exact .inl (by decide)

/-- Positional notation is written with the characters of numbers. -/
lemma isNumeral_positional {digits : List Char} {whole : Int}
    (hd : ∀ c ∈ digits, IsNumeral c) : ∀ c ∈ positional digits whole, IsNumeral c := by
  intro c h
  unfold positional at h
  split at h
  · simp only [List.cons_append, List.nil_append, List.mem_cons, List.mem_append] at h
    rcases h with rfl | rfl | h | h
    · exact .inl (by decide)
    · exact .inr (by decide)
    · exact isNumeral_zeros h
    · exact hd c h
  · have hf : ∀ c ∈ digits ++ List.replicate (whole.toNat - digits.length) '0', IsNumeral c := by
      intro c h
      rcases List.mem_append.mp h with h | h
      · exact hd c h
      · exact isNumeral_zeros h
    rcases List.mem_append.mp h with h | h
    · exact hf c (List.mem_of_mem_take h)
    · rcases List.mem_cons.mp h with rfl | h
      · exact .inr (by decide)
      · split at h
        · rw [List.mem_singleton.mp h]
          exact .inl (by decide)
        · exact hf c (List.mem_of_mem_drop h)

/-- Scientific notation is written with the characters of numbers. -/
lemma isNumeral_scientific {digits : List Char} {leading : Int}
    (hd : ∀ c ∈ digits, IsNumeral c) : ∀ c ∈ scientific digits leading, IsNumeral c := by
  intro c h
  unfold scientific at h
  simp only [List.mem_append, List.mem_cons] at h
  rcases h with (h | h) | rfl | rfl | h
  · exact hd c (List.mem_of_mem_take h)
  · split at h
    · cases h
    · rcases List.mem_cons.mp h with rfl | h
      · exact .inr (by decide)
      · exact hd c (List.mem_of_mem_drop h)
  · exact .inr (by decide)
  · split <;> exact .inr (by decide)
  · exact isNumeral_digits h

/-- A whole number is written with the characters of numbers. -/
lemma isNumeral_intText {n : Int} : ∀ c ∈ intText n, IsNumeral c := by
  intro c h
  unfold intText at h
  split at h
  · rcases List.mem_cons.mp h with rfl | h
    · exact .inr (by decide)
    · exact isNumeral_digits h
  · exact isNumeral_digits h

/-- A binary number is written with the characters of numbers. -/
lemma isNumeral_floatText {x : GridRows.Number.Double} : ∀ c ∈ floatText x, IsNumeral c := by
  have hd : ∀ c ∈ Nat.toDigits 10 x.shortest.digits, IsNumeral c := fun c => isNumeral_digits
  have hm (leading : Int) : ∀ c ∈ if -5 ≤ leading ∧ leading < 16 then
      positional (Nat.toDigits 10 x.shortest.digits) (leading + 1)
      else scientific (Nat.toDigits 10 x.shortest.digits) leading, IsNumeral c := by
    split
    · exact isNumeral_positional hd
    · exact isNumeral_scientific hd
  intro c h
  unfold floatText at h
  dsimp only at h
  split at h
  · rcases List.mem_cons.mp h with rfl | h
    · exact .inr (by decide)
    · exact hm _ c h
  · exact hm _ c h

/-- The text of a number holds digits, signs, points and exponent letters only. -/
lemma text_chars (n : Number) : ∀ c ∈ n.text, IsNumeral c := by
  cases n with
  | integer n fits => exact isNumeral_intText
  | float x => exact isNumeral_floatText

end Number

end GridRows.Json
