import GridRows.Plan
import GridRows.Proofs.Sql.Matching

/-!
# What text filters say of a cell

The operand of a text test that looks for a part of the cell is put into a pattern as it is, so its
wildcards count (`TextTest.Matches`).  Without wildcards the test says what its name says
(`TextTest.Says`); with one of them it does not for every cell.

The main statement is `Filter.text_predicate`.
-/

namespace GridRows

open Sql (Like isWildcard)

namespace TextTest

/-- What the name of the test says of a cell. -/
def Says (test : TextTest) (operand cell : String) : Prop :=
  match test with
  | .equals => cell = operand
  | .notEqual => cell ≠ operand
  | .contains => operand.toList <:+: cell.toList
  | .notContains => ¬ operand.toList <:+: cell.toList
  | .startsWith => operand.toList <+: cell.toList
  | .endsWith => operand.toList <:+ cell.toList

/-- The test of a cell with the operand as a pattern for the part that is looked for. -/
def Matches (test : TextTest) (operand cell : String) : Prop :=
  match test with
  | .equals => cell = operand
  | .notEqual => cell ≠ operand
  | .contains => ∃ part, part <:+: cell.toList ∧ Like operand.toList part
  | .notContains => ¬ ∃ part, part <:+: cell.toList ∧ Like operand.toList part
  | .startsWith => ∃ part, part <+: cell.toList ∧ Like operand.toList part
  | .endsWith => ∃ part, part <:+ cell.toList ∧ Like operand.toList part

/-- Whether the test looks for a part of the cell, and not for all of it. -/
def isPartial : TextTest → Bool
  | .equals | .notEqual => false
  | _ => true

variable {test : TextTest} {operand cell : String}

/-- Without wildcards the parts that match the operand are the operand itself. -/
lemma exists_part_plain {part? : List Char → Prop} (h : ∀ c ∈ operand.toList, isWildcard c = false) :
    (∃ part, part? part ∧ Like operand.toList part) ↔ part? operand.toList := by
  constructor
  · rintro ⟨part, hpart, hlike⟩
    rw [Sql.like_plain h] at hlike
    exact hlike ▸ hpart
  · intro hpart
    exact ⟨operand.toList, hpart, (Sql.like_plain h).mpr rfl⟩

/-- Without wildcards in a partial operand, the predicate matches exactly where the test says so. -/
lemma matches_iff_says (h : test.isPartial = true → ∀ c ∈ operand.toList, isWildcard c = false) :
    test.Matches operand cell ↔ test.Says operand cell := by
  cases test with
  | equals => exact Iff.rfl
  | notEqual => exact Iff.rfl
  | contains => exact exists_part_plain (h rfl)
  | notContains => exact not_congr (exists_part_plain (h rfl))
  | startsWith => exact exists_part_plain (h rfl)
  | endsWith => exact exists_part_plain (h rfl)

/-- With a wildcard the operand matches a cell of which it is no part. -/
lemma exists_not_matches_iff_says {c : Char} (htest : test.isPartial = true)
    (hc : c ∈ operand.toList) (hwild : isWildcard c = true) :
    ∃ cell, ¬ (test.Matches operand cell ↔ test.Says operand cell) := by
  refine ⟨String.ofList (Sql.tamed operand.toList), ?_⟩
  have hlike := Sql.like_tamed operand.toList
  have hpart := Sql.not_infix_tamed hc hwild
  intro h
  unfold Matches Says at h
  rw [String.toList_ofList] at h
  cases test with
  | equals => cases htest
  | notEqual => cases htest
  | contains => exact hpart (h.mp ⟨_, List.infix_rfl, hlike⟩)
  | notContains => exact h.mpr hpart ⟨_, List.infix_rfl, hlike⟩
  | startsWith => exact hpart (h.mp ⟨_, List.prefix_rfl, hlike⟩).isInfix
  | endsWith => exact hpart (h.mp ⟨_, List.suffix_rfl, hlike⟩).isInfix

end TextTest

/-- The predicate of a text filter always says something of a row of texts. -/
lemma Filter.holds_text (test : TextTest) (operand column : String) (row : String → String) :
    ∃ b, ((Filter.text test operand).toExpr column).holds? row = some b ∧
      (b = true ↔ test.Matches operand (row column)) := by
  cases test with
  | equals => exact ⟨_, rfl, decide_eq_true_iff⟩
  | notEqual => exact ⟨_, rfl, decide_eq_true_iff⟩
  | contains =>
    refine ⟨_, rfl, decide_eq_true_iff.trans ?_⟩
    simp only [String.toList_append]
    exact Sql.like_contains
  | notContains =>
    refine ⟨_, rfl, decide_eq_true_iff.trans (not_congr ?_)⟩
    simp only [String.toList_append]
    exact Sql.like_contains
  | startsWith =>
    refine ⟨_, rfl, decide_eq_true_iff.trans ?_⟩
    simp only [String.toList_append]
    exact Sql.like_startsWith
  | endsWith =>
    refine ⟨_, rfl, decide_eq_true_iff.trans ?_⟩
    simp only [String.toList_append]
    exact Sql.like_endsWith

/--
What the predicate of a text filter says of a row of texts: that the cell equals the operand or does
not, or that a part of the cell, its beginning or its end matches the operand as a pattern, or that
none does.  This is what the name of the test says, for all cells, exactly if the test is for all of
the cell or the operand has no wildcard.
-/
theorem Filter.text_predicate (test : TextTest) (operand column : String) :
    (∀ row : String → String, ∃ b, ((Filter.text test operand).toExpr column).holds? row = some b ∧
      (b = true ↔ test.Matches operand (row column))) ∧
    ((∀ row : String → String, ((Filter.text test operand).toExpr column).holds? row = some true ↔
      test.Says operand (row column)) ↔
        test.isPartial = false ∨ ∀ c ∈ operand.toList, isWildcard c = false) := by
  have holds_iff (row : String → String) :
      ((Filter.text test operand).toExpr column).holds? row = some true ↔
        test.Matches operand (row column) := by
    obtain ⟨b, hb, hmatches⟩ := holds_text test operand column row
    rw [hb, Option.some.injEq]
    exact hmatches
  refine ⟨holds_text test operand column, ?_⟩
  simp only [holds_iff]
  constructor
  · intro h
    by_contra hnot
    simp only [not_or, not_forall, Bool.not_eq_false] at hnot
    obtain ⟨htest, c, hc, hwild⟩ := hnot
    obtain ⟨cell, hcell⟩ := TextTest.exists_not_matches_iff_says htest hc hwild
    exact hcell (h fun _ => cell)
  · rintro (htest | hplain) row
    · exact TextTest.matches_iff_says fun h => absurd h (by simp [htest])
    · exact TextTest.matches_iff_says fun _ => hplain

/-- Every name begins with a percent sign as far as the filter can tell. -/
theorem Filter.text_predicate_wildcard :
    ((Filter.text .startsWith "%").toExpr "athlete").holds? (fun _ => "Phelps") = some true ∧
      ¬ TextTest.startsWith.Says "%" "Phelps" := by
  refine ⟨by decide, ?_⟩
  unfold TextTest.Says
  decide

end GridRows
