import GridRows.Proofs.Filter

/-!
# The grammar of wire filters

Which wire filters are accepted, as what, and for which reason the others are refused.  An operand is
of the sort that its test asks for, or it is the fault that `TextTest.operandFault` and
`NumberTest.operandFault` name; of two faulty operands the first is named.

The main statement is `Filter.ofWire_grammar`.
-/

namespace GridRows

open Json (Value Number)

/-- The wire filter has no test, or one that is not known for its kind. -/
def WireFilter.IsUnknown (w : WireFilter) : Prop :=
  w.test = none ∨ ∃ name, w.test = some name ∧ (w.kind, name) ∉ knownTests

/-- What is wrong with an operand that is not a text. -/
def TextTest.operandFault (test : TextTest) : Option Value → FilterFault
  | some found => .notText test found
  | none => .noText test

/-- What is wrong with an operand that is not a number; `field` is its name on the wire. -/
def NumberTest.operandFault (test : NumberTest) (field : String) : Option Value → FilterFault
  | some found => .notNumber test field found
  | none => .noNumber test field

namespace Filter

/-! ## Operands -/

/-- Any other operand of a text test is refused with the reason for that test. -/
lemma textOperand_eq_error {test : TextTest} {operand : Option Value}
    (h : ∀ s, operand ≠ some (.string s)) :
    textOperand test operand = .error (test.operandFault operand) := by
  unfold textOperand
  split
  · exact absurd rfl (h _)
  · rfl
  · rfl

/-- Any other operand of a number test is refused with the reason for that test and field. -/
lemma numberOperand_eq_error {test : NumberTest} {field : String} {operand : Option Value}
    (h : ∀ n, operand ≠ some (.number n)) :
    numberOperand test field operand = .error (test.operandFault field operand) := by
  unfold numberOperand
  split
  · exact absurd rfl (h _)
  · rfl
  · rfl

/-! ## Filters -/

section Filters

variable {w : WireFilter} {f : Filter}

/-- Unknown are the filters whose kind and test are not known together. -/
lemma isUnknown_iff : w.IsUnknown ↔ ∀ name ∈ w.test, (w.kind, name) ∉ knownTests := by
  obtain ⟨kind, test, operand, upper⟩ := w
  cases test with
  | none => exact iff_of_true (.inl rfl) nofun
  | some name => simp [WireFilter.IsUnknown]

/-- The filters that are not supported are those of an unknown test. -/
lemma ofWire_eq_unsupported {kind : String} {test : Option String} :
    ofWire w = .ok (.unsupported kind test) ↔ w.IsUnknown ∧ kind = w.kind ∧ test = w.test := by
  rw [isUnknown_iff]
  constructor
  · intro h
    rcases ofWire_cases h with ⟨_, _, hf⟩ | ⟨_, _, hf⟩ | ⟨_, _, hf⟩ | ⟨hf, hunknown⟩
    · cases hf
    · cases hf
    · cases hf
    · cases hf
      exact ⟨hunknown, rfl, rfl⟩
  · rintro ⟨hunknown, rfl, rfl⟩
    exact ofWire_unknown hunknown

/-- A test that is known is a text test, a comparison or the range, each under its own kind. -/
lemma known_cases (h : ¬ w.IsUnknown) :
    (∃ test : TextTest, w.kind = "text" ∧ w.test = some test.name) ∨
      (∃ c : Comparison, w.kind = "number" ∧ w.test = some c.name) ∨
      w.kind = "number" ∧ w.test = some "inRange" := by
  rw [isUnknown_iff] at h
  simp only [not_forall, not_not] at h
  obtain ⟨name, hname, hknown⟩ := h
  have htest : w.test = some name := hname
  rcases mem_knownTests.mp hknown with ⟨test, hkind, rfl⟩ | ⟨c | -, hkind, rfl⟩
  · exact .inl ⟨test, hkind, htest⟩
  · exact .inr (.inl ⟨c, hkind, htest⟩)
  · exact .inr (.inr ⟨hkind, htest⟩)

section Text

variable {test : TextTest}

/-- A text filter is what its test makes of the operand. -/
lemma ofWire_of_text (hkind : w.kind = "text") (htest : w.test = some test.name) :
    ofWire w = (do return .text test (← textOperand test w.operand)) := by
  obtain ⟨kind, name, operand, upper⟩ := w
  cases hkind
  cases htest
  exact ofWire_text test operand upper

/-- A text filter is accepted exactly with a string, which is kept. -/
lemma ofWire_text_eq_ok (hkind : w.kind = "text") (htest : w.test = some test.name) :
    ofWire w = .ok f ↔ ∃ s, w.operand = some (.string s) ∧ f = .text test s := by
  rw [ofWire_of_text hkind htest, bind_eq_ok]
  constructor
  · rintro ⟨s, hs, hf⟩
    cases hf
    exact ⟨s, textOperand_eq_ok.mp hs, rfl⟩
  · rintro ⟨s, hs, rfl⟩
    exact ⟨s, textOperand_eq_ok.mpr hs, rfl⟩

/-- A text filter without a string is refused. -/
lemma ofWire_text_eq_error (hkind : w.kind = "text") (htest : w.test = some test.name)
    (h : ∀ s, w.operand ≠ some (.string s)) :
    ofWire w = .error (test.operandFault w.operand) := by
  rw [ofWire_of_text hkind htest, textOperand_eq_error h]
  rfl

end Text

section Number

variable {c : Comparison}

/-- A comparison is what its test makes of the operand. -/
lemma ofWire_of_comparison (hkind : w.kind = "number") (htest : w.test = some c.name) :
    ofWire w = (do return .number c (← numberOperand (.comparison c) "filter" w.operand)) := by
  obtain ⟨kind, name, operand, upper⟩ := w
  cases hkind
  cases htest
  exact ofWire_comparison c operand upper

/-- A comparison is accepted exactly with a number, which is made whole where it can be. -/
lemma ofWire_comparison_eq_ok (hkind : w.kind = "number") (htest : w.test = some c.name) :
    ofWire w = .ok f ↔ ∃ n, w.operand = some (.number n) ∧ f = .number c (wholeIfExact n) := by
  rw [ofWire_of_comparison hkind htest, bind_eq_ok]
  constructor
  · rintro ⟨n, hn, hf⟩
    obtain ⟨m, hm, rfl⟩ := numberOperand_eq_ok.mp hn
    cases hf
    exact ⟨m, hm, rfl⟩
  · rintro ⟨m, hm, rfl⟩
    exact ⟨wholeIfExact m, numberOperand_eq_ok.mpr ⟨m, hm, rfl⟩, rfl⟩

/-- A range is what its test makes of the lower bound and then of the upper one. -/
lemma ofWire_of_inRange (hkind : w.kind = "number") (htest : w.test = some "inRange") :
    ofWire w = (do
      let low ← numberOperand .inRange "filter" w.operand
      let high ← numberOperand .inRange "filterTo" w.upper
      return .inRange low high) := by
  obtain ⟨kind, name, operand, upper⟩ := w
  cases hkind
  cases htest
  exact ofWire_inRange operand upper

/-- A range is accepted exactly with two numbers, which are made whole where they can be. -/
lemma ofWire_inRange_eq_ok (hkind : w.kind = "number") (htest : w.test = some "inRange") :
    ofWire w = .ok f ↔ ∃ low high, w.operand = some (.number low) ∧
      w.upper = some (.number high) ∧ f = .inRange (wholeIfExact low) (wholeIfExact high) := by
  rw [ofWire_of_inRange hkind htest, bind_eq_ok]
  constructor
  · rintro ⟨low, hlow, hrest⟩
    obtain ⟨high, hhigh, hf⟩ := bind_eq_ok.mp hrest
    obtain ⟨l, hl, rfl⟩ := numberOperand_eq_ok.mp hlow
    obtain ⟨u, hu, rfl⟩ := numberOperand_eq_ok.mp hhigh
    cases hf
    exact ⟨l, u, hl, hu, rfl⟩
  · rintro ⟨l, u, hl, hu, rfl⟩
    have hlow : numberOperand .inRange "filter" w.operand = .ok (wholeIfExact l) :=
      numberOperand_eq_ok.mpr ⟨l, hl, rfl⟩
    have hhigh : numberOperand .inRange "filterTo" w.upper = .ok (wholeIfExact u) :=
      numberOperand_eq_ok.mpr ⟨u, hu, rfl⟩
    exact ⟨_, hlow, bind_eq_ok.mpr ⟨_, hhigh, rfl⟩⟩

/-- Whatever a number test does with its other operand, it begins with this one. -/
lemma ofWire_number_eq_error {test : NumberTest} (hkind : w.kind = "number")
    (htest : w.test = some test.name) (h : ∀ n, w.operand ≠ some (.number n)) :
    ofWire w = .error (test.operandFault "filter" w.operand) := by
  cases test with
  | comparison c =>
    rw [ofWire_of_comparison hkind htest, numberOperand_eq_error h]
    rfl
  | inRange =>
    rw [ofWire_of_inRange hkind htest, numberOperand_eq_error h]
    rfl

/-- With a lower bound, a range without an upper one is refused for the upper one. -/
lemma ofWire_inRange_eq_error {low : Number} (hkind : w.kind = "number")
    (htest : w.test = some "inRange") (hlow : w.operand = some (.number low))
    (h : ∀ n, w.upper ≠ some (.number n)) :
    ofWire w = .error (NumberTest.inRange.operandFault "filterTo" w.upper) := by
  rw [ofWire_of_inRange hkind htest, hlow, numberOperand_eq_error h]
  rfl

end Number

/-- A filter that is typed has the kind and the test that were sent. -/
lemma toWire_of_ofWire (h : ofWire w = .ok f) (htyped : f.isUnsupported = false) :
    f.toWire.kind = w.kind ∧ f.toWire.test = w.test := by
  by_cases hunknown : w.IsUnknown
  · rw [ofWire_eq_unsupported.mpr ⟨hunknown, rfl, rfl⟩] at h
    cases h
    cases htyped
  · rcases known_cases hunknown with ⟨test, hkind, htest⟩ | ⟨c, hkind, htest⟩ | ⟨hkind, htest⟩
    · obtain ⟨s, -, rfl⟩ := (ofWire_text_eq_ok hkind htest).mp h
      exact ⟨hkind.symm, htest.symm⟩
    · obtain ⟨n, -, rfl⟩ := (ofWire_comparison_eq_ok hkind htest).mp h
      exact ⟨hkind.symm, htest.symm⟩
    · obtain ⟨low, high, -, -, rfl⟩ := (ofWire_inRange_eq_ok hkind htest).mp h
      exact ⟨hkind.symm, htest.symm⟩

end Filters

/--
What a wire filter is accepted as.  It is kept as one that is not supported, with its kind and test,
exactly if it has no test or none that is known for its kind, whatever its operands are.  With a known
text test it is accepted exactly if its operand is a text, and with a known number test exactly if its
operand is a number and, for a range alone, the upper one is a number too; it is then the filter with
that test and those operands.  Otherwise the fault is that of the operand, and that of the upper one
only if the operand is a number.
-/
theorem ofWire_grammar (w : WireFilter) :
    (∀ kind test, ofWire w = .ok (.unsupported kind test) ↔
      w.IsUnknown ∧ kind = w.kind ∧ test = w.test) ∧
    (∀ test : TextTest, w.kind = "text" → w.test = some test.name →
      (∀ f, ofWire w = .ok f ↔ ∃ s, w.operand = some (.string s) ∧ f = .text test s) ∧
      ((∀ s, w.operand ≠ some (.string s)) →
        ofWire w = .error (test.operandFault w.operand))) ∧
    (∀ c : Comparison, w.kind = "number" → w.test = some c.name →
      ∀ f, ofWire w = .ok f ↔
        ∃ n, w.operand = some (.number n) ∧ f = .number c (wholeIfExact n)) ∧
    (w.kind = "number" → w.test = some "inRange" →
      (∀ f, ofWire w = .ok f ↔ ∃ low high, w.operand = some (.number low) ∧
        w.upper = some (.number high) ∧ f = .inRange (wholeIfExact low) (wholeIfExact high)) ∧
      ∀ low, w.operand = some (.number low) → (∀ n, w.upper ≠ some (.number n)) →
        ofWire w = .error (NumberTest.inRange.operandFault "filterTo" w.upper)) ∧
    (∀ test : NumberTest, w.kind = "number" → w.test = some test.name →
      (∀ n, w.operand ≠ some (.number n)) →
        ofWire w = .error (test.operandFault "filter" w.operand)) ∧
    ∀ f, ofWire w = .ok f → f.isUnsupported = false →
      f.toWire.kind = w.kind ∧ f.toWire.test = w.test := by
  refine ⟨fun kind test => ofWire_eq_unsupported, fun test hkind htest => ?_, fun c hkind htest f =>
    ofWire_comparison_eq_ok hkind htest, fun hkind htest => ?_, fun test hkind htest h =>
    ofWire_number_eq_error hkind htest h, fun f h htyped => toWire_of_ofWire h htyped⟩
  · exact ⟨fun f => ofWire_text_eq_ok hkind htest, fun h => ofWire_text_eq_error hkind htest h⟩
  · exact ⟨fun f => ofWire_inRange_eq_ok hkind htest,
      fun low hlow h => ofWire_inRange_eq_error hkind htest hlow h⟩

/--
Filters on years: of two faulty bounds the first is named, an upper bound is looked at for a range alone,
and bounds do not make a range of a test that is not known.
-/
theorem ofWire_grammar_years :
    let year : Value := .number (.integer 2000 (by decide))
    ofWire ⟨"number", some "inRange", some (.string "ten"), none⟩ =
        .error (.notNumber .inRange "filter" (.string "ten")) ∧
      ofWire ⟨"number", some "inRange", some year, none⟩ = .error (.noNumber .inRange "filterTo") ∧
      ofWire ⟨"number", some "lessThan", some year, some (.string "ten")⟩ =
        .ok (.number .lessThan (.integer 2000 (by decide))) ∧
      ofWire ⟨"text", some "contains", some year, none⟩ = .error (.notText .contains year) ∧
      ofWire ⟨"number", some "between", some year, some year⟩ =
        .ok (.unsupported "number" (some "between")) := by
  intro year
  obtain ⟨-, -, -, -, hfirst, -⟩ :=
    ofWire_grammar ⟨"number", some "inRange", some (.string "ten"), none⟩
  obtain ⟨-, -, -, hrange, -⟩ := ofWire_grammar ⟨"number", some "inRange", some year, none⟩
  obtain ⟨-, -, hcomparison, -⟩ :=
    ofWire_grammar ⟨"number", some "lessThan", some year, some (.string "ten")⟩
  obtain ⟨-, htext, -⟩ := ofWire_grammar ⟨"text", some "contains", some year, none⟩
  obtain ⟨hunknown, -⟩ := ofWire_grammar ⟨"number", some "between", some year, some year⟩
  refine ⟨hfirst .inRange rfl rfl (by simp), (hrange rfl rfl).2 _ rfl (by simp), ?_,
    (htext .contains rfl rfl).2 (by simp [year]), ?_⟩
  · exact (hcomparison .lessThan rfl rfl _).mpr ⟨_, rfl, rfl⟩
  · exact (hunknown _ _).mpr ⟨.inr ⟨"between", rfl, by decide⟩, rfl, rfl⟩

end Filter

end GridRows
