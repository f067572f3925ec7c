import GridRows.Filter
import Mathlib.Logic.Basic
import Mathlib.Tactic.Lemma

/-!
# Filters and their wire form

A wire filter is typed if its kind and the name of its test are a pair of `knownTests`, and is not
supported otherwise (`Filter.ofWire_unknown`).  Its own wire form stands for a filter unless it keeps a
typed pair as one that is not supported, or a number that is replaced on the way in
(`Filter.settled_iff`); no filter that was read does either (`Filter.settled_of_ofWire`).
-/

namespace GridRows

open Json (Value Number)

/-- Two steps succeed exactly if the first does and the second succeeds on its result. -/
lemma bind_eq_ok {ε α β : Type} {m : Except ε α} {f : α → Except ε β} {b : β} :
    m >>= f = .ok b ↔ ∃ a, m = .ok a ∧ f a = .ok b := by
  cases m with
  | error e =>
    constructor
    · rintro ⟨⟩
    · rintro ⟨a, ⟨⟩, -⟩
  | ok a =>
    constructor
    · exact fun h => ⟨a, rfl, h⟩
    · rintro ⟨_, ⟨⟩, h⟩
      exact h

/-! ## Tests and their names -/

/-- The kinds and tests of the filters that are typed. -/
def knownTests : List (String × String) :=
  [("text", "equals"), ("text", "notEqual"), ("text", "contains"), ("text", "notContains"),
    ("text", "startsWith"), ("text", "endsWith"),
    ("number", "equals"), ("number", "notEqual"), ("number", "greaterThan"),
    ("number", "greaterThanOrEqual"), ("number", "lessThan"), ("number", "lessThanOrEqual"),
    ("number", "inRange")]

/-- A text test is found by its own name alone. -/
lemma TextTest.eq_name_of_ofName? {name : String} {test : TextTest} (h : ofName? name = some test) :
    name = test.name := by
  unfold ofName? at h
  split at h <;> cases h <;> rfl

/-- A number test is found by its own name alone. -/
lemma NumberTest.eq_name_of_ofName? {name : String} {test : NumberTest}
    (h : ofName? name = some test) : name = test.name := by
  unfold ofName? at h
  split at h <;> cases h <;> rfl

/-- A pair is known if a text test or a number test has the name. -/
lemma mem_knownTests {kind name : String} :
    (kind, name) ∈ knownTests ↔ (∃ test : TextTest, kind = "text" ∧ name = test.name) ∨
      ∃ test : NumberTest, kind = "number" ∧ name = test.name := by
  constructor
  · intro h
    have named : ∀ pair ∈ knownTests,
        (pair.1 = "text" ∧ (TextTest.ofName? pair.2).isSome) ∨
          (pair.1 = "number" ∧ (NumberTest.ofName? pair.2).isSome) := by
      decide
    rcases named _ h with ⟨hkind, hname⟩ | ⟨hkind, hname⟩
    · obtain ⟨test, htest⟩ := Option.isSome_iff_exists.mp hname
      exact .inl ⟨test, hkind, TextTest.eq_name_of_ofName? htest⟩
    · obtain ⟨test, htest⟩ := Option.isSome_iff_exists.mp hname
      exact .inr ⟨test, hkind, NumberTest.eq_name_of_ofName? htest⟩
  · rintro (⟨test, rfl, rfl⟩ | ⟨test | -, rfl, rfl⟩)
    · cases test <;> decide
    · cases test <;> decide
    · decide

/-! ## Numbers that filters keep -/

/-- A number stays as it is or becomes a whole one. -/
lemma wholeIfExact_cases (n : Number) :
    wholeIfExact n = n ∨ ∃ k fits, wholeIfExact n = .integer k fits := by
  cases n with
  | integer k fits => exact .inl rfl
  | float x =>
    cases hw : wholeIfExact (.float x) with
    | integer k fits => exact .inr ⟨k, fits, rfl⟩
    | float y =>
      simp only [wholeIfExact] at hw
      split at hw
      · split at hw
        · cases hw
        · exact .inl hw.symm
      · exact .inl hw.symm

/-- What has been made whole where it can be stays as it is. -/
lemma wholeIfExact_wholeIfExact (n : Number) : wholeIfExact (wholeIfExact n) = wholeIfExact n := by
  rcases wholeIfExact_cases n with h | ⟨k, fits, h⟩
  · rw [h, h]
  · rw [h]
    rfl

namespace Filter

/-- The numbers that the filter compares with. -/
def numbers : Filter → List Number
  | .number _ operand => [operand]
  | .inRange low high => [low, high]
  | _ => []

/-- A text test takes exactly a string as its operand. -/
lemma textOperand_eq_ok {test : TextTest} {operand : Option Value} {s : String} :
    textOperand test operand = .ok s ↔ operand = some (.string s) := by
  constructor
  · intro h
    unfold textOperand at h
    split at h
    · cases h
      rfl
    · cases h
    · cases h
  · rintro rfl
    rfl

/-- A number test takes exactly a number as its operand, made whole where it can be. -/
lemma numberOperand_eq_ok {test : NumberTest} {field : String} {operand : Option Value}
    {n : Number} :
    numberOperand test field operand = .ok n ↔
      ∃ m, operand = some (.number m) ∧ n = wholeIfExact m := by
  constructor
  · intro h
    unfold numberOperand at h
    split at h
    · cases h
      exact ⟨_, rfl, rfl⟩
    · cases h
    · cases h
  · rintro ⟨m, rfl, rfl⟩
    rfl

/-! ## From the wire -/

/-- A filter whose kind and test are not known together is kept as unsupported. -/
lemma ofWire_unknown {w : WireFilter} (h : ∀ name ∈ w.test, (w.kind, name) ∉ knownTests) :
    ofWire w = .ok (.unsupported w.kind w.test) := by
  unfold ofWire
  split
  · rename_i hnone
    rw [hnone]
  · rename_i name hname
    have hunknown := h name hname
    rw [hname]
    -- wherever a test is found by its name, the pair is known after all
    split
    · rename_i hkind
      split
      · rename_i test htest
        have hnamed := TextTest.eq_name_of_ofName? htest
        exact absurd (mem_knownTests.mpr (.inl ⟨test, hkind, hnamed⟩)) hunknown
      · rfl
    · split
      · rename_i hkind
        split
        · rename_i c htest
          have hnamed := NumberTest.eq_name_of_ofName? htest
          exact absurd (mem_knownTests.mpr (.inr ⟨.comparison c, hkind, hnamed⟩)) hunknown
        · rename_i htest
          have hnamed := NumberTest.eq_name_of_ofName? htest
          exact absurd (mem_knownTests.mpr (.inr ⟨.inRange, hkind, hnamed⟩)) hunknown
        · rfl
      · rfl

/-- A known text test only needs its operand. -/
lemma ofWire_text (test : TextTest) (operand upper : Option Value) :
    ofWire ⟨"text", some test.name, operand, upper⟩ =
      (do return .text test (← textOperand test operand)) := by
  cases test <;> rfl

/-- A comparison only needs its operand. -/
lemma ofWire_comparison (c : Comparison) (operand upper : Option Value) :
    ofWire ⟨"number", some c.name, operand, upper⟩ =
      (do return .number c (← numberOperand (.comparison c) "filter" operand)) := by
  cases c <;> rfl

/-- A range needs its lower bound, and then its upper bound. -/
lemma ofWire_inRange (operand upper : Option Value) :
    ofWire ⟨"number", some NumberTest.inRange.name, operand, upper⟩ = (do
      let low ← numberOperand .inRange "filter" operand
      let high ← numberOperand .inRange "filterTo" upper
      return .inRange low high) :=
  rfl

/-- What a wire filter can stand for. -/
lemma ofWire_cases {w : WireFilter} {f : Filter} (h : ofWire w = .ok f) :
    (∃ test s, f = .text test s) ∨ (∃ c n, f = .number c (wholeIfExact n)) ∨
      (∃ low high, f = .inRange (wholeIfExact low) (wholeIfExact high)) ∨
      f = .unsupported w.kind w.test ∧ ∀ name ∈ w.test, (w.kind, name) ∉ knownTests := by
  by_cases hunknown : ∀ name ∈ w.test, (w.kind, name) ∉ knownTests
  · rw [ofWire_unknown hunknown] at h
    cases h
    exact .inr (.inr (.inr ⟨rfl, hunknown⟩))
  · obtain ⟨kind, test, operand, upper⟩ := w
    simp only [not_forall, not_not] at hunknown
    obtain ⟨name, hname, hknown⟩ := hunknown
    cases hname
    rcases mem_knownTests.mp hknown with ⟨test, rfl, rfl⟩ | ⟨c | -, rfl, rfl⟩
    · rw [ofWire_text] at h
      obtain ⟨s, -, hf⟩ := bind_eq_ok.mp h
      cases hf
      exact .inl ⟨test, s, rfl⟩
    · rw [NumberTest.name, ofWire_comparison] at h
      obtain ⟨n, hn, hf⟩ := bind_eq_ok.mp h
      cases hf
      obtain ⟨m, -, rfl⟩ := numberOperand_eq_ok.mp hn
      exact .inr (.inl ⟨c, m, rfl⟩)
    · rw [ofWire_inRange] at h
      obtain ⟨low, hlow, h⟩ := bind_eq_ok.mp h
      obtain ⟨high, hhigh, hf⟩ := bind_eq_ok.mp h
      cases hf
      obtain ⟨low, -, rfl⟩ := numberOperand_eq_ok.mp hlow
      obtain ⟨high, -, rfl⟩ := numberOperand_eq_ok.mp hhigh
      exact .inr (.inr (.inl ⟨low, high, rfl⟩))

/-! ## To the wire and back -/

/-- The filter is what its wire form stands for. -/
def Settled (f : Filter) : Prop := ofWire f.toWire = .ok f

/-- An unsupported filter is settled exactly if its kind and test are not known together. -/
lemma settled_unsupported {kind : String} {test : Option String} :
    (unsupported kind test).Settled ↔ ∀ name ∈ test, (kind, name) ∉ knownTests := by
  constructor
  · rintro h name ⟨⟩ hknown
    rcases mem_knownTests.mp hknown with ⟨test, rfl, rfl⟩ | ⟨c | -, rfl, rfl⟩
    · rw [Settled, toWire, ofWire_text] at h
      cases h
    · rw [Settled, toWire, NumberTest.name, ofWire_comparison] at h
      cases h
    · cases h
  · intro h
    exact ofWire_unknown (w := toWire (unsupported kind test)) h

/-- Which filters come back as they are from their wire form. -/
lemma settled_iff (f : Filter) :
    f.Settled ↔ (∀ kind name, f = .unsupported kind (some name) → (kind, name) ∉ knownTests) ∧
      ∀ n ∈ f.numbers, wholeIfExact n = n := by
  cases f with
  | text test s =>
    have hwire : ofWire (toWire (.text test s)) = .ok (.text test s) := ofWire_text test _ _
    simp [Settled, hwire, numbers]
  | number c n =>
    have hwire : ofWire (toWire (.number c n)) = .ok (.number c (wholeIfExact n)) :=
      ofWire_comparison c _ _
    simp [Settled, hwire, numbers]
  | inRange low high =>
    have hwire : ofWire (toWire (.inRange low high)) =
        .ok (.inRange (wholeIfExact low) (wholeIfExact high)) := ofWire_inRange _ _
    simp [Settled, hwire, numbers]
  | unsupported kind test =>
    rw [settled_unsupported]
    constructor
    · intro h
      refine ⟨?_, List.forall_mem_nil _⟩
      rintro _ name ⟨⟩
      exact h name rfl
    · rintro ⟨h, -⟩ name ⟨⟩
      exact h kind name rfl

/-- A filter that was read comes back as it is. -/
lemma settled_of_ofWire {w : WireFilter} {f : Filter} (h : ofWire w = .ok f) : f.Settled := by
  rcases ofWire_cases h with ⟨test, s, rfl⟩ | ⟨c, n, rfl⟩ | ⟨low, high, rfl⟩ | ⟨rfl, hunknown⟩
  · exact (settled_iff _).mpr ⟨nofun, List.forall_mem_nil _⟩
  · refine (settled_iff _).mpr ⟨nofun, ?_⟩
    simp [numbers, wholeIfExact_wholeIfExact]
  · refine (settled_iff _).mpr ⟨nofun, ?_⟩
    simp [numbers, wholeIfExact_wholeIfExact]
  · exact settled_unsupported.mpr hunknown

end Filter

end GridRows
