import GridRows.Proofs.FilterGrammar
import GridRows.Proofs.Operands
import GridRows.Proofs.Plan
import GridRows.Proofs.RoundTrip
import GridRows.Proofs.Sql.Template
import GridRows.Proofs.SpelledRequest

/-!
# Numbers in any spelling

Two texts may spell a number differently: `2000`, `2000.0` and `2e3` are one year.  If both are read as
the whole number that is written, filters keep it in one form (`wholeIfExact_eq_integer_iff`), so the texts
are read as one request (`SpelledRequest.Respelled.plain_eq`).  A literal whose digits are kept is read so;
digits that are not kept can show (`Request.spelling_shows`).

The main statement is `Request.whole_operands`.
-/

namespace GridRows

open Json (Literal Number Numeral Value Written)
open Number (natOfDigits)
open Sql (Dialect Query RenderMode Template)

/-! ## One number in two spellings -/

/-- The given whole number is written, and read. -/
structure Json.Numeral.Spells (n : Numeral) (m : Int) : Prop where
  written : n.literal.value = m
  read : n.number.value = m

/-- The operands are the same, or two spellings of one whole number below `9 · 10 ^ 15`. -/
inductive Json.Written.Respelled : Written → Written → Prop
  | same (o : Written) : Respelled o o
  | whole {a b : Numeral} {m : Int} (hm : |m| < 9_000_000_000_000_000) (ha : a.Spells m)
      (hb : b.Spells m) : Respelled (.numeral a) (.numeral b)

/-- The filters are written alike, but for the spelling of their operands. -/
structure SpelledFilter.Respelled (a b : SpelledFilter) : Prop where
  kind : a.kind = b.kind
  test : a.test = b.test
  operand : Option.Rel Written.Respelled a.operand b.operand
  upper : Option.Rel Written.Respelled a.upper b.upper

/-- The requests are written alike, but for the spelling of the operands of their filters. -/
structure SpelledRequest.Respelled (a b : SpelledRequest) : Prop where
  rest : a.rest = b.rest
  model : Option.Rel
    (List.Forall₂ fun entry entry' => entry.1 = entry'.1 ∧ entry.2.Respelled entry'.2) a.model b.model

/-- A small whole number, and no other, is kept as one. -/
lemma wholeIfExact_eq_integer_iff {n : Number} {m : Int} (hm : |m| < 9_000_000_000_000_000) :
    n.value = m ↔ ∃ fits, wholeIfExact n = .integer m fits := by
  constructor
  · exact fun hvalue => wholeIfExact_eq_integer hvalue hm
  · rintro ⟨fits, hstored⟩
    rw [← value_wholeIfExact, hstored]
    rfl

namespace Filter

/-- The operands are the same, or numbers that are kept as one. -/
def SameOperand (a b : Option Value) : Prop :=
  a = b ∨ ∃ n n', a = some (.number n) ∧ b = some (.number n') ∧ wholeIfExact n = wholeIfExact n'

section

variable {a b : Option Value}

/-- Texts that are the same operand are equal. -/
lemma SameOperand.text {s s' : String} (h : SameOperand a b) (ha : a = some (.string s))
    (hb : b = some (.string s')) : s = s' := by
  rcases h with rfl | ⟨n, n', hn, -⟩
  · cases ha.symm.trans hb
    rfl
  · cases ha.symm.trans hn

/-- Numbers that are the same operand are equal once they are made whole where they can be. -/
lemma SameOperand.number {n n' : Number} (h : SameOperand a b) (ha : a = some (.number n))
    (hb : b = some (.number n')) : wholeIfExact n = wholeIfExact n' := by
  rcases h with rfl | ⟨k, k', hk, hk', hsame⟩
  · cases ha.symm.trans hb
    rfl
  · cases ha.symm.trans hk
    cases hb.symm.trans hk'
    exact hsame

end

/-- A filter does not show which of the same operands it was made of. -/
lemma ofWire_congr {w w' : WireFilter} {f f' : Filter} (hkind : w.kind = w'.kind)
    (htest : w.test = w'.test) (hoperand : SameOperand w.operand w'.operand)
    (hupper : SameOperand w.upper w'.upper) (hf : ofWire w = .ok f) (hf' : ofWire w' = .ok f') :
    f = f' := by
  -- the names alone decide which operands are looked at, and of which kind they are
  by_cases hunknown : w.IsUnknown
  · have hnames := isUnknown_iff.mp hunknown
    rw [ofWire_unknown hnames] at hf
    rw [ofWire_unknown (hkind ▸ htest ▸ hnames), ← hkind, ← htest] at hf'
    exact Except.ok.inj (hf.symm.trans hf')
  · rcases known_cases hunknown with ⟨test, hk, ht⟩ | ⟨c, hk, ht⟩ | ⟨hk, ht⟩
    · obtain ⟨s, hs, rfl⟩ := (ofWire_text_eq_ok hk ht).mp hf
      obtain ⟨s', hs', rfl⟩ := (ofWire_text_eq_ok (hkind ▸ hk) (htest ▸ ht)).mp hf'
      rw [hoperand.text hs hs']
    · obtain ⟨n, hn, rfl⟩ := (ofWire_comparison_eq_ok hk ht).mp hf
      obtain ⟨n', hn', rfl⟩ := (ofWire_comparison_eq_ok (hkind ▸ hk) (htest ▸ ht)).mp hf'
      rw [hoperand.number hn hn']
    · obtain ⟨low, high, hlow, hhigh, rfl⟩ := (ofWire_inRange_eq_ok hk ht).mp hf
      obtain ⟨low', high', hlow', hhigh', rfl⟩ :=
        (ofWire_inRange_eq_ok (hkind ▸ hk) (htest ▸ ht)).mp hf'
      rw [hoperand.number hlow hlow', hupper.number hhigh hhigh']

end Filter

/-- Operands that differ in spelling alone are the same operand. -/
lemma Json.Written.Respelled.sameOperand {a b : Option Written}
    (h : Option.Rel Written.Respelled a b) :
    Filter.SameOperand (a.map (·.value)) (b.map (·.value)) := by
  cases h with
  | none => exact .inl rfl
  | some hrespelled =>
    cases hrespelled with
    | same o => exact .inl rfl
    | whole hm ha hb =>
      obtain ⟨fits, hstored⟩ := (wholeIfExact_eq_integer_iff hm).mp ha.read
      obtain ⟨fits', hstored'⟩ := (wholeIfExact_eq_integer_iff hm).mp hb.read
      exact .inr ⟨_, _, rfl, rfl, hstored.trans hstored'.symm⟩

/-- Filters that differ in spelling alone are the same filter. -/
lemma SpelledFilter.Respelled.filter_eq {a b : SpelledFilter} (h : a.Respelled b) :
    a.filter = b.filter := by
  exact Filter.ofWire_congr h.kind h.test (Written.Respelled.sameOperand h.operand)
    (Written.Respelled.sameOperand h.upper) a.stands b.stands

/-- Requests that differ in spelling alone are the same request. -/
lemma SpelledRequest.Respelled.plain_eq {a b : SpelledRequest} (h : a.Respelled b) :
    a.plain = b.plain := by
  obtain ⟨rest, model⟩ := a
  obtain ⟨rest', model'⟩ := b
  obtain ⟨rfl, hmodel⟩ := h
  cases hmodel with
  | none => rfl
  | @some entries entries' hentries =>
    have hplain : entries.map (fun entry => (entry.1, entry.2.filter)) =
        entries'.map (fun entry => (entry.1, entry.2.filter)) := by
      rw [← List.forall₂_eq_eq_eq, List.forall₂_map_left_iff, List.forall₂_map_right_iff]
      exact hentries.imp fun _ _ hentry => Prod.ext hentry.1 hentry.2.filter_eq
    rw [plain, plain, Option.map_some, Option.map_some, SpelledModel.plain, hplain]
    rfl

/-! ## Statements -/

/-- In a valid request an operand that is a whole number is bound, or written with its digits. -/
lemma Request.whole_written {r : Request} (valid : r.validate = .ok ()) {column : String}
    {f : Filter} {m : Int} {fits : Json.FitsWord m} (hf : (column, f) ∈ r.filters)
    (hm : .integer m fits ∈ f.numbers) (d : Dialect) :
    ∃ (p : Plan) (fragments : List String), r.plan = .ok p ∧
      .number (.integer m fits) ∈ p.query.literals ∧
      (p.statement d .parameterized).params = p.query.literals ∧
      (p.statement d .inline).sql = Template.woven fragments (p.query.literals.map d.literal) ∧
      d.literal (.number (.integer m fits)) =
        String.ofList ((if m < 0 then ['-'] else []) ++ Nat.toDigits 10 m.natAbs) := by
  obtain ⟨-, w, hw⟩ := validate_inv valid
  refine ⟨_, ((r.query w).template d).fragments, plan_of_valid valid hw,
    number_mem_literals.mpr ⟨column, f, hf, hm⟩, ?bound, ?written, ?digits⟩
  case bound => rw [Plan.statement, Query.render_parameterized_woven]
  case written => rw [Plan.statement, Query.render_inline_woven]
  case digits =>
    change String.ofList (Number.intText m) = _
    unfold Number.intText
    split
    · rfl
    · rfl

/--
A filter keeps the value of each number that it is given, and what it keeps it would keep again.  It keeps
a binary number only if that is what it was given, and it is not whole or not below `9 · 10 ^ 15`; a number
that is worth a whole number below that is kept as this one.

So texts that differ only in spellings of such whole numbers are read as one request and give one statement,
if each spelling is read as the number that is written.  It is if the digits of the literal are kept, as up
to fifty-three bits of them always are.  In the statement the number is a value that is bound, or that is
written with its digits.
-/
theorem Request.whole_operands (d : Dialect) (mode : RenderMode) :
    (∀ n : Number, (wholeIfExact n).value = n.value ∧
      wholeIfExact (wholeIfExact n) = wholeIfExact n ∧
      (∀ x, wholeIfExact n = .float x →
        n = .float x ∧ ((∀ k : Int, x.value ≠ k) ∨ 9_000_000_000_000_000 ≤ |x.value|)) ∧
      ∀ m : Int, |m| < 9_000_000_000_000_000 →
        (n.value = m ↔ ∃ fits, wholeIfExact n = .integer m fits)) ∧
    (∀ w : WireFilter, w.kind = "number" → ∀ n, w.operand = some (.number n) →
      (∀ c : Comparison, w.test = some c.name →
        Filter.ofWire w = .ok (.number c (wholeIfExact n))) ∧
      (w.test = some "inRange" → ∀ n', w.upper = some (.number n') →
        Filter.ofWire w = .ok (.inRange (wholeIfExact n) (wholeIfExact n')))) ∧
    (∀ text text' s s', SpelledRequest.read text = .ok s → SpelledRequest.read text' = .ok s' →
      s.Respelled s' →
      (∃ r, Request.read text = .ok r ∧ Request.read text' = .ok r) ∧
      (Request.read text).map (·.compile d mode) = (Request.read text').map (·.compile d mode)) ∧
    (∀ (l : Literal) (m : Int), |m| < 9_000_000_000_000_000 → l.value = m → l.IsKept →
      ∃ n, l.toNumber? = some n ∧ n.value = m) ∧
    (∀ l : Literal, natOfDigits (l.whole ++ l.fraction.getD []) ≤ 2 ^ 53 → l.IsKept) ∧
    (∀ r : Request, r.validate = .ok () → ∀ column f m fits, (column, f) ∈ r.filters →
      .integer m fits ∈ f.numbers → ∃ (p : Plan) (fragments : List String),
        r.plan = .ok p ∧ .number (.integer m fits) ∈ p.query.literals ∧
        (p.statement d .parameterized).params = p.query.literals ∧
        (p.statement d .inline).sql = Template.woven fragments (p.query.literals.map d.literal) ∧
        d.literal (.number (.integer m fits)) =
          String.ofList ((if m < 0 then ['-'] else []) ++ Nat.toDigits 10 m.natAbs)) := by
  refine ⟨fun n => ⟨value_wholeIfExact n, wholeIfExact_wholeIfExact n, fun x => wholeIfExact_eq_float,
      fun m => wholeIfExact_eq_integer_iff⟩,
    fun w hkind n hn => ⟨fun c htest => ?comparison, fun htest n' hn' => ?range⟩, ?respelled,
    fun l m hm hvalue hkept => l.toNumber?_whole hkept (hm.le.trans (by decide)) hvalue,
    fun l => Literal.isKept_of_le,
    fun r valid column f m fits hf hm => whole_written valid hf hm d⟩
  case comparison => exact (Filter.ofWire_comparison_eq_ok hkind htest).mpr ⟨n, hn, rfl⟩
  case range => exact (Filter.ofWire_inRange_eq_ok hkind htest).mpr ⟨n, n', hn, hn', rfl⟩
  case respelled =>
    intro text text' s s' hs hs' hrespelled
    -- both texts give the request without its spelling, which is the same for both
    have hread : Request.read text = .ok s.plain := by
      rw [SpelledRequest.read_plain, hs]
      rfl
    have hread' : Request.read text' = .ok s.plain := by
      rw [SpelledRequest.read_plain, hs', hrespelled.plain_eq]
      rfl
    exact ⟨⟨_, hread, hread'⟩, by rw [hread, hread']⟩

/-! ## A sample request -/

/-- A page of the games of one year, which is written as given. -/
def yearPage (year : String) : String :=
  "\x7b\"tableName\":\"games\",\"startRow\":0,\"endRow\":5,\"filterModel\":" ++
    "\x7b\"year\":\x7b\"filterType\":\"number\",\"type\":\"equals\",\"filter\":" ++ year ++
    "\x7d\x7d\x7d"

/-- What is read of the page. -/
def yearRequest (year : Number) : Request where
  table := "games"
  groupColumns := []
  groupKeys := []
  valueColumns := []
  filterModel := some [("year", .number .equals year)]
  sortModel := none
  startRow := 0
  endRow := 5

deriving instance DecidableEq for Json.Literal

/-- The literal of a number. -/
def Json.Written.literal? : Written → Option Literal
  | .numeral n => some n.literal
  | .other _ => none

/-- What is written of a filter, without the values that are no numbers. -/
structure SpelledFilter.Outline where
  kind : String
  test : Option String
  operand : Option (Option Literal)
  upper : Option (Option Literal)
  deriving DecidableEq

/-- What is written of the filters of a request, and the rest of it. -/
def SpelledRequest.outline (s : SpelledRequest) :
    Request × Option (List (String × SpelledFilter.Outline)) :=
  (s.rest, s.model.map (·.map fun entry => (entry.1, ⟨entry.2.kind, entry.2.test,
    entry.2.operand.map (·.literal?), entry.2.upper.map (·.literal?)⟩)))

/-- The page as it is written. -/
lemma SpelledRequest.read_yearPage (year : String) (rest : Request) (l : Literal)
    (h : (SpelledRequest.read (yearPage year)).toOption.map SpelledRequest.outline =
      some (rest, some [("year", ⟨"number", some "equals", some (some l), none⟩)])) :
    ∃ (f : SpelledFilter) (n : Numeral),
      SpelledRequest.read (yearPage year) = .ok ⟨rest, some [("year", f)]⟩ ∧
      f.kind = "number" ∧ f.test = some "equals" ∧ f.operand = some (.numeral n) ∧
      n.literal = l ∧ f.upper = none := by
  obtain ⟨⟨rest, model⟩, hs, houtline⟩ := Option.map_eq_some_iff.mp h
  obtain ⟨rfl, hmodel⟩ := Prod.mk.inj houtline
  obtain ⟨entries, rfl, hentries⟩ := Option.map_eq_some_iff.mp hmodel
  obtain ⟨⟨column, f⟩, rfl, hentry⟩ := List.map_eq_singleton_iff.mp hentries
  obtain ⟨rfl, hf⟩ := Prod.mk.inj hentry
  obtain ⟨hkind, htest, hoperand, hupper⟩ := SpelledFilter.Outline.mk.inj hf
  obtain ⟨w, hw, hliteral⟩ := Option.map_eq_some_iff.mp hoperand
  cases w with
  | numeral n =>
    exact ⟨f, n, ok_of_toOption hs, hkind, htest, hw, Option.some.inj hliteral,
      Option.map_eq_none_iff.mp hupper⟩
  | other v => cases hliteral

/-- The year 2000 with a point, and as two thousands, are one whole number, so the pages are read alike. -/
theorem Request.whole_operands_years :
    (∃ n, Literal.toNumber? ⟨false, ['2', '0', '0', '0'], some ['0'], none⟩ = some n ∧
      n.value = (2000 : Int)) ∧
    ∃ r, Request.read (yearPage "2000.0") = .ok r ∧ Request.read (yearPage "2e3") = .ok r := by
  obtain ⟨-, -, hrespelled, hread, hkept, -⟩ := whole_operands .postgres .inline
  have hpoint : Literal.value ⟨false, ['2', '0', '0', '0'], some ['0'], none⟩ = (2000 : Int) := by
    have hdigits : natOfDigits ['2', '0', '0', '0', '0'] = 20000 := rfl
    norm_num [Literal.value, Literal.magnitude, Literal.exponentValue, hdigits]
  have hthousands : Literal.value ⟨false, ['2'], none, some (false, ['3'])⟩ = (2000 : Int) := by
    have hdigits : natOfDigits ['2'] = 2 := rfl
    have hexponent : natOfDigits ['3'] = 3 := rfl
    norm_num [Literal.value, Literal.magnitude, Literal.exponentValue, hdigits, hexponent]
  have hspells {l : Literal} (hvalue : l.value = (2000 : Int))
      (hle : natOfDigits (l.whole ++ l.fraction.getD []) ≤ 2 ^ 53) {n : Numeral}
      (hn : n.literal = l) : n.Spells 2000 := by
    obtain ⟨k, hk, hkvalue⟩ := hread l 2000 (by decide) hvalue (hkept l hle)
    cases (hn ▸ n.reads).symm.trans hk
    exact ⟨hn ▸ hvalue, hkvalue⟩
  let rest : Request := { yearRequest (.ofInt64 2000) with filterModel := none }
  obtain ⟨f, n, hs, hkind, htest, hoperand, hliteral, hupper⟩ :=
    SpelledRequest.read_yearPage "2000.0" rest ⟨false, ['2', '0', '0', '0'], some ['0'], none⟩
      (by decide +kernel)
  obtain ⟨f', n', hs', hkind', htest', hoperand', hliteral', hupper'⟩ :=
    SpelledRequest.read_yearPage "2e3" rest ⟨false, ['2'], none, some (false, ['3'])⟩
      (by decide +kernel)
  have hfilter : f.Respelled f' := by
    refine ⟨hkind.trans hkind'.symm, htest.trans htest'.symm, ?_, ?_⟩
    · rw [hoperand, hoperand']
      exact .some (.whole (by decide) (hspells hpoint (by decide) hliteral)
        (hspells hthousands (by decide) hliteral'))
    · rw [hupper, hupper']
      exact .none
  exact ⟨hread _ 2000 (by decide) hpoint (hkept _ (by decide)),
    (hrespelled _ _ _ _ hs hs' ⟨rfl, .some (.cons ⟨rfl, hfilter⟩ .nil)⟩).1⟩

/--
Sixteen digits of a whole number below `9 · 10 ^ 15` do not let the zero behind the point be kept with
them: the number is read as the one before it, and the statements differ.
-/
theorem Request.spelling_shows :
    Literal.value ⟨false, Nat.toDigits 10 8999999999999999, none, none⟩ = 8999999999999999 ∧
    Literal.value ⟨false, Nat.toDigits 10 8999999999999999, some ['0'], none⟩ = 8999999999999999 ∧
    ∃ r r', Request.read (yearPage "8999999999999999") = .ok r ∧
      Request.read (yearPage "8999999999999999.0") = .ok r' ∧
      r.inlineSql .postgres =
        .ok " select * FROM games where year = 8999999999999999 limit 6 offset 0" ∧
      r'.inlineSql .postgres =
        .ok " select * FROM games where year = 8999999999999998 limit 6 offset 0" := by
  refine ⟨?_, ?_, yearRequest (.ofInt64 8999999999999999), yearRequest (.ofInt64 8999999999999998),
    ?_, ?_, ?_, ?_⟩
  · have hdigits : natOfDigits (Nat.toDigits 10 8999999999999999) = 8999999999999999 :=
      Number.natOfDigits_toDigits _
    norm_num [Literal.value, Literal.magnitude, Literal.exponentValue, hdigits]
  · have hdigits : natOfDigits (Nat.toDigits 10 8999999999999999 ++ ['0']) = 89999999999999990 := by
      decide +kernel
    norm_num [Literal.value, Literal.magnitude, Literal.exponentValue, hdigits]
  · exact ok_of_toOption (by decide +kernel)
  · exact ok_of_toOption (by decide +kernel)
  · exact ok_of_toOption (by decide +kernel)
  · exact ok_of_toOption (by decide +kernel)

end GridRows
