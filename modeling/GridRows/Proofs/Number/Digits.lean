import GridRows.Number.Decimal
import Mathlib.Data.List.Basic
import Mathlib.Tactic.Positivity
import Mathlib.Tactic.Ring

/-!
# Digits

A list of digits spells a number place by place (`natOfDigits_append`), each place with less than ten
(`natOfDigits_lt`), so digits that are cut off behind are divided away (`natOfDigits_take`).
-/

namespace GridRows.Number

/-- The digits of a number are digits. -/
lemma isDigit_toDigits (n : Nat) : ∀ c ∈ Nat.toDigits 10 n, c.isDigit := fun _ =>
  Nat.isDigit_of_mem_toDigits (by decide) (by decide)

/-- Zeros are digits. -/
lemma isDigit_zeros (n : Nat) : ∀ c ∈ List.replicate n '0', c.isDigit := by
  intro c hc
  rw [List.eq_of_mem_replicate hc]
  rfl

/-- Digits are worth the number that `Nat.ofDigitChars` gives. -/
lemma natOfDigits_eq (cs : List Char) : natOfDigits cs = Nat.ofDigitChars 10 cs 0 :=
  Nat.ofDigitChars_eq_foldl.symm

/-- The digits of a number are worth the number. -/
lemma natOfDigits_toDigits (n : Nat) : natOfDigits (Nat.toDigits 10 n) = n := by
  rw [natOfDigits_eq, Nat.ofDigitChars_ten_toDigits]

/-- One more digit is worth itself, and makes those before it worth ten times as much. -/
lemma natOfDigits_concat (cs : List Char) (c : Char) :
    natOfDigits (cs ++ [c]) = 10 * natOfDigits cs + digitValue c := by
  rw [natOfDigits, List.foldl_append]
  rfl

/-- Digits in front of others are worth as much more as those are many. -/
lemma natOfDigits_append (cs ds : List Char) :
    natOfDigits (cs ++ ds) = natOfDigits cs * 10 ^ ds.length + natOfDigits ds := by
  induction ds using List.reverseRecOn with
  | nil => simp [natOfDigits]
  | append_singleton ds d ih =>
    rw [← List.append_assoc, natOfDigits_concat, natOfDigits_concat, ih, List.length_append,
      List.length_singleton, pow_succ]
    ring

/-- The first digit is worth as much as its place. -/
lemma natOfDigits_cons (c : Char) (cs : List Char) :
    natOfDigits (c :: cs) = digitValue c * 10 ^ cs.length + natOfDigits cs := by
  have hone : natOfDigits [c] = digitValue c := by simp [natOfDigits]
  rw [← List.singleton_append, natOfDigits_append, hone]

/-- Zeros are worth nothing. -/
lemma natOfDigits_zeros (n : Nat) : natOfDigits (List.replicate n '0') = 0 := by
  induction n with
  | zero => rfl
  | succ n ih =>
    rw [List.replicate_succ', natOfDigits_concat, ih]
    rfl

/-- A digit is worth less than ten. -/
lemma digitValue_lt {c : Char} (h : c.isDigit) : digitValue c < 10 := by
  have h : 48 ≤ c.toNat ∧ c.toNat ≤ 57 := by
    simpa [Char.isDigit, UInt32.le_iff_toNat_le] using h
  have hzero : '0'.toNat = 48 := rfl
  unfold digitValue
  omega

/-- So many digits are worth less than the power of ten with so many zeros. -/
lemma natOfDigits_lt {cs : List Char} (h : ∀ c ∈ cs, c.isDigit) :
    natOfDigits cs < 10 ^ cs.length := by
  induction cs using List.reverseRecOn with
  | nil => simp [natOfDigits]
  | append_singleton cs c ih =>
    have hcs := ih fun d hd => h d (List.mem_append_left _ hd)
    have hc := digitValue_lt (h c (by simp))
    rw [natOfDigits_concat, List.length_append, List.length_singleton, pow_succ]
    omega

/-- Digits that are cut off behind are divided away. -/
lemma natOfDigits_take {cs : List Char} (h : ∀ c ∈ cs, c.isDigit) (n : Nat) :
    natOfDigits (cs.take n) = natOfDigits cs / 10 ^ (cs.length - n) := by
  have hdrop : natOfDigits (cs.drop n) < 10 ^ (cs.length - n) := by
    rw [← List.length_drop]
    exact natOfDigits_lt fun c hc => h c (List.mem_of_mem_drop hc)
  conv_rhs => rw [← List.take_append_drop n cs, natOfDigits_append]
  rw [List.take_append_drop, List.length_drop, mul_comm, Nat.mul_add_div (by positivity),
    Nat.div_eq_of_lt hdrop, Nat.add_zero]

end GridRows.Number
