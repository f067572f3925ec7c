import GridRows.Postgres.Cell
import GridRows.Proofs.Json.Denotation
import GridRows.Proofs.Plan
import GridRows.Proofs.Sql.Template

/-!
# Numbers written and numbers bound

An inline statement has the text of a number, and a parameterized one binds the binary number nearest to
it.  They are different numbers where the format has none with the value of the text
(`Request.numbers_differ`).  But the nearest number keeps the order to every number of the format
(`Binary.IsNearest.order`), so a column of whole numbers that the format has can not tell them apart.

The main statement is `Request.numbers_agree`.
-/

namespace GridRows

open Json (FitsWord Value)
open Number (Binary Decimal Double Format)
open Postgres (Parameter)
open Sql (Dialect Query Template)

/-- What a comparison says of two numbers. -/
def Comparison.Holds : Comparison → ℚ → ℚ → Prop
  | .equals, p, q => p = q
  | .notEqual, p, q => p ≠ q
  | .greaterThan, p, q => q < p
  | .greaterThanOrEqual, p, q => q ≤ p
  | .lessThan, p, q => p < q
  | .lessThanOrEqual, p, q => p ≤ q

/-- Comparisons are about the order alone. -/
lemma Comparison.holds_congr (c : Comparison) {p q q' : ℚ} (hlt : p < q ↔ p < q')
    (hgt : q < p ↔ q' < p) : c.Holds p q ↔ c.Holds p q' := by
  have heq : p = q ↔ p = q' := by
    rw [eq_iff_le_not_lt, eq_iff_le_not_lt, ← not_lt, ← not_lt, hlt, hgt]
  cases c with
  | equals => exact heq
  | notEqual => exact not_congr heq
  | greaterThan => exact hgt
  | greaterThanOrEqual => exact not_lt.symm.trans ((not_congr hlt).trans not_lt)
  | lessThan => exact hlt
  | lessThanOrEqual => exact not_lt.symm.trans ((not_congr hgt).trans not_lt)

/-! ## One number -/

/-- Whole numbers of up to fifty-three bits are binary numbers. -/
lemma exists_double {n : Int} (h : |n| ≤ 2 ^ 53) : ∃ y : Double, y.value = n :=
  Binary.exists_value_eq (by decide) (by decide) h

/-- What is rounded to a small whole number is that number, if it is whole itself. -/
lemma eq_of_isNearest {x : Double} {n m : Int} (h : x.IsNearest n) (hm : |m| < 2 ^ 53)
    (hx : x.value = m) : n = m := by
  obtain ⟨hlow, hhigh⟩ := abs_lt.mp hm
  by_cases hn : |n| ≤ 2 ^ 53
  · obtain ⟨y, hy⟩ := exists_double hn
    rw [← hy] at h
    have heq := h.value_eq
    rw [hx, hy] at heq
    exact_mod_cast heq.symm
  · -- beyond that the nearest number is not smaller than the last of these
    exfalso
    rcases lt_abs.mp (not_le.mp hn) with hlt | hlt
    · obtain ⟨y, hy⟩ := exists_double (n := 2 ^ 53) (by decide)
      have hne : x.value ≠ y.value := by
        rw [hx, hy]
        exact_mod_cast hhigh.ne
      have hless := (h.order y fun e => absurd e hne).1.mp (by rw [hy]; exact_mod_cast hlt)
      rw [hx, hy] at hless
      have hless : (2 : Int) ^ 53 < m := by exact_mod_cast hless
      omega
    · obtain ⟨y, hy⟩ := exists_double (n := -2 ^ 53) (by decide)
      have hne : x.value ≠ y.value := by
        rw [hx, hy]
        exact_mod_cast hlow.ne'
      have hgreater := (h.order y fun e => absurd e hne).2.mp (by
        rw [hy]
        exact_mod_cast (show n < -2 ^ 53 by omega))
      rw [hx, hy] at hgreater
      have hgreater : m < -(2 : Int) ^ 53 := by exact_mod_cast hgreater
      omega

/-- A number is bound as the binary number nearest to its text, which is not far off. -/
lemma Json.Number.toDouble_nearest (n : Json.Number) :
    ∃ d, Decimal.ofChars? n.text = some d ∧ n.toDouble.IsNearest d.value ∧
      (∀ m : Int, |m| < 2 ^ 53 → n.toDouble.value = m → d.value = m) ∧
      ∀ m fits, n = .integer m fits → d.value = m := by
  cases n with
  | integer n fits =>
    obtain ⟨d, hd, hvalue⟩ := denotes_integer n
    obtain ⟨x, hx, hnearest⟩ := ofInt?_nearest fits
    have hdouble : toDouble (.integer n fits) = x := by rw [toDouble, hx, Option.getD_some]
    refine ⟨d, hd, ?_, fun m hm h => ?_, ?_⟩
    · rw [hdouble, hvalue]
      exact hnearest
    · rw [hvalue, eq_of_isNearest hnearest hm (hdouble ▸ h)]
    · rintro m fits' h
      cases h
      exact hvalue
  | float x =>
    obtain ⟨d, hd, hnearest, hwhole⟩ := denotes_float x
    exact ⟨d, hd, hnearest, hwhole, fun m fits h => Json.Number.noConfusion h⟩

/-- A whole number in a column, as it is compared with a binary number. -/
lemma ofInt?_cell {cell : Int} (hfits : FitsWord cell) (h : ∃ z : Double, z.value = cell) :
    ∃ y : Double, Binary.ofInt? cell = some y ∧ y.value = cell := by
  obtain ⟨y, hy, hnearest⟩ := Json.Number.ofInt?_nearest hfits
  obtain ⟨z, hz⟩ := h
  rw [← hz] at hnearest
  exact ⟨y, hy, hnearest.value_eq.trans hz⟩

/-! ## The numbers of a statement -/

/--
A valid request is written in both modes with the same fragments.  Between them stand the texts of its
literals, or their placeholders with the literals bound.  Each number is bound as the binary number
nearest to what its text denotes: that number itself if a binary number has its value, as every whole
number of up to fifty-three bits, and the operand itself if it is binary.  A column of whole numbers, which
are compared as binary numbers then, is filtered alike in both modes, as long as its cells have no more
bits than that, or both the cell and the operand are binary numbers.
-/
theorem Request.numbers_agree {r : Request} (valid : r.validate = .ok ()) :
    ∃ (p : Plan) (inline bound : Statement) (fragments : List String),
      r.plan = .ok p ∧ r.compile .postgres .inline = .ok inline ∧
      r.compile .postgres .parameterized = .ok bound ∧ bound.params = p.query.literals ∧
      inline.sql = Template.woven fragments (p.query.literals.map Dialect.postgres.literal) ∧
      bound.sql = Template.woven fragments (p.query.literals.mapIdx Dialect.postgres.placeholder) ∧
      ∀ n, .number n ∈ p.query.literals → ∃ (d : Decimal) (x : Double),
        Dialect.postgres.literal (.number n) = String.ofList n.text ∧
        Decimal.ofChars? n.text = some d ∧ Parameter.ofJson (.number n) = .number x ∧
        x.IsNearest d.value ∧ ((∃ y : Double, y.value = d.value) → x.value = d.value) ∧
        (∀ m fits, n = .integer m fits → d.value = m ∧ (|m| ≤ 2 ^ 53 → x.value = m)) ∧
        (∀ y, n = .float y → x = y) ∧
        ∀ cell : Int, FitsWord cell →
          |cell| < 2 ^ 53 ∨ (∃ y : Double, y.value = cell) ∧ x.value = d.value →
          ∃ y : Double, Binary.ofInt? cell = some y ∧
            ∀ c : Comparison, c.Holds y.value x.value ↔ c.Holds cell d.value := by
  obtain ⟨-, w, hw⟩ := validate_inv valid
  have hp := plan_of_valid valid hw
  refine ⟨_, _, _, ((r.query w).template .postgres).fragments, hp,
    compile_of_plan hp .postgres .inline, compile_of_plan hp .postgres .parameterized, ?bound,
    ?written, ?marked, fun n _ => ?number⟩
  case bound => rw [Plan.statement, Query.render_parameterized_woven]
  case written => rw [Plan.statement, Query.render_inline_woven]
  case marked => rw [Plan.statement, Query.render_parameterized_woven]
  case number =>
    obtain ⟨d, hd, hnearest, hwhole, hinteger⟩ := n.toDouble_nearest
    have hexact : (∃ y : Double, y.value = d.value) → n.toDouble.value = d.value := by
      rintro ⟨y, hy⟩
      rw [← hy] at hnearest ⊢
      exact hnearest.value_eq
    refine ⟨d, n.toDouble, rfl, hd, rfl, hnearest, hexact, fun m fits h => ?integer, ?float, ?cell⟩
    case integer =>
      have hvalue := hinteger m fits h
      refine ⟨hvalue, fun hm => ?_⟩
      obtain ⟨y, hy⟩ := exists_double hm
      exact (hexact ⟨y, hy.trans hvalue.symm⟩).trans hvalue
    case float =>
      rintro y rfl
      rfl
    case cell =>
      intro cell hfits hcell
      have hz : ∃ z : Double, z.value = cell :=
        hcell.elim (fun hsmall => exists_double hsmall.le) (·.1)
      obtain ⟨y, hy, hvalue⟩ := ofInt?_cell hfits hz
      refine ⟨y, hy, fun c => ?_⟩
      rw [← hvalue]
      -- below 2 ^ 53 the nearest number keeps the order of the cells; else both sides are exact
      rcases hcell with hsmall | ⟨-, hx⟩
      · obtain ⟨hlt, hgt⟩ := hnearest.order y fun e =>
          (hwhole cell hsmall (e.trans hvalue)).trans hvalue.symm
        exact c.holds_congr hlt.symm hgt.symm
      · rw [hx]

/-- The values of the statement for medals: the opened group, the pattern, and the bounds. -/
lemma Request.literals_medals (key part : String) (low high : Int64) (w : PageWindow) :
    ((medals key part low high).query w).literals =
      [.string key, .string ("%" ++ part ++ "%"), .number (.ofInt64 low), .number (.ofInt64 high),
        .number (.ofInt64 low)] :=
  rfl

/-- Both modes compare the gold medals with twenty. -/
theorem Request.numbers_agree_medals :
    (medals "USA" "Phelps" 20 30).validate = .ok () ∧
    ∃ (d : Decimal) (x : Double), Decimal.ofChars? (Json.Number.ofInt64 20).text = some d ∧
      Parameter.ofJson (.number (.ofInt64 20)) = .number x ∧ d.value = 20 ∧ x.value = 20 := by
  have valid : (medals "USA" "Phelps" 20 30).validate = .ok () := rfl
  obtain ⟨p, inline, bound, fragments, hp, -, -, -, -, -, hnumbers⟩ := numbers_agree valid
  have hmem : .number (.ofInt64 20) ∈ p.query.literals := by
    obtain ⟨-, w, hw⟩ := validate_inv valid
    cases hp.symm.trans (plan_of_valid valid hw)
    rw [literals_medals]
    simp
  obtain ⟨d, x, -, hd, hx, -, -, hinteger, -⟩ := hnumbers _ hmem
  obtain ⟨hdvalue, hxvalue⟩ := hinteger 20 (by decide) rfl
  exact ⟨valid, d, x, hd, hx, by exact_mod_cast hdvalue, by exact_mod_cast hxvalue (by decide)⟩

/--
An odd whole number of fifty-four bits is bound as the one before it, so the two modes do not compare
with the same number, and they differ on the cell that holds the one before it.  On a cell that holds the
odd number they differ too, if they compare with the one before it.
-/
theorem Request.numbers_differ :
    (medals "USA" "Phelps" 9007199254740993 30).validate = .ok () ∧
    ∃ (p : Plan) (x : Double),
      (medals "USA" "Phelps" 9007199254740993 30).plan = .ok p ∧
      .number (.ofInt64 9007199254740993) ∈ p.query.literals ∧
      Dialect.postgres.literal (.number (.ofInt64 9007199254740993)) = "9007199254740993" ∧
      Parameter.ofJson (.number (.ofInt64 9007199254740993)) = .number x ∧
      x.value = 9007199254740992 ∧
      (Comparison.equals.Holds 9007199254740992 x.value ∧
        ¬ Comparison.equals.Holds 9007199254740992 9007199254740993) ∧
      ∃ y : Double, Binary.ofInt? 9007199254740993 = some y ∧
        Comparison.equals.Holds y.value 9007199254740992 ∧
        ¬ Comparison.equals.Holds 9007199254740993 9007199254740992 := by
  have valid : (medals "USA" "Phelps" 9007199254740993 30).validate = .ok () := rfl
  obtain ⟨-, w, hw⟩ := validate_inv valid
  have hp := plan_of_valid valid hw
  -- the bits can be computed, the powers of two in the value can not
  have hparts : (Json.Number.ofInt64 9007199254740993).toDouble.negative = false ∧
      (Json.Number.ofInt64 9007199254740993).toDouble.significand = 2 ^ 52 ∧
      (Json.Number.ofInt64 9007199254740993).toDouble.shift = Format.double.unit + 1 := by
    decide +kernel
  obtain ⟨hnegative, hsignificand, hshift⟩ := hparts
  have hvalue : (Json.Number.ofInt64 9007199254740993).toDouble.value = 9007199254740992 := by
    have hunit : (2 : ℚ) ^ Format.double.unit ≠ 0 := by positivity
    rw [Binary.value, hnegative, Number.signed_false, Binary.magnitude, Binary.scaled_eq,
      hsignificand, hshift, pow_succ 2 Format.double.unit]
    push_cast
    rw [mul_comm ((2 : ℚ) ^ Format.double.unit), ← mul_assoc, mul_div_cancel_right₀ _ hunit]
    norm_num
  have hcell : Binary.ofInt? 9007199254740993 =
      some (Json.Number.ofInt64 9007199254740993).toDouble := by
    decide +kernel
  refine ⟨valid, _, _, hp, ?_, by decide +kernel, rfl, hvalue, ⟨hvalue.symm, ?_⟩, _, hcell, hvalue, ?_⟩
  · rw [literals_medals]
    simp
  · simp only [Comparison.Holds]
    norm_num
  · simp only [Comparison.Holds]
    norm_num

end GridRows
