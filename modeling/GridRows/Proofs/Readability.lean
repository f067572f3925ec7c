import GridRows.Proofs.Plan
import GridRows.Proofs.Sql.Reading

/-!
# Readability of statements

What the planner builds is readable: `and` stands only between the bounds of a range, in parentheses,
and comparisons have columns, columns as text and literals on their sides.

The main statement is `Request.parameterized_readable`: a parameterized statement and its values are
read back as the statement that was planned, and its predicates are those of the expanded levels and
the filters, one for each.
-/

namespace GridRows

open Json (Value)
open Sql (Dialect Expr Query Readable isIdentifier)

/-! ## Plans are readable -/

/-- No text test is written as a conjunction. -/
lemma TextTest.predicate_ne_and (test : TextTest) (operand : String) :
    (test.predicate operand).1 ≠ .and := by
  cases test <;> exact Sql.BinaryOperator.noConfusion

/-- No comparison is written as a conjunction. -/
lemma Comparison.operator_ne_and (c : Comparison) : c.operator ≠ .and := by
  cases c <;> exact Sql.BinaryOperator.noConfusion

/-- A comparison of a column with a value is readable as a predicate. -/
lemma compareColumn_readable {op : Sql.BinaryOperator} (h : op ≠ .and) (column : String)
    (v : Value) : Readable .predicate (compareColumn column op v) :=
  .comparison h (.column column) (.literal v)

/-- The predicate of a filter is readable; that of a range in its parentheses. -/
lemma Filter.readable (f : Filter) (column : String) : Readable .predicate (f.toExpr column) := by
  cases f with
  | text test operand => exact compareColumn_readable (test.predicate_ne_and operand) column _
  | number comparison operand => exact compareColumn_readable comparison.operator_ne_and column _
  | inRange low high =>
    have hlow : Readable .predicate (compareColumn column .gte (.number low)) :=
      compareColumn_readable (by decide) column _
    have hhigh : Readable .predicate (compareColumn column .lte (.number high)) :=
      compareColumn_readable (by decide) column _
    -- the one `and` that the planner builds, between the parentheses around it
    show Readable .predicate (.nested (Sql.Grammar.conjoin [_, _]))
    refine .operand (.nested (List.cons_ne_nil _ _) ?_)
    exact List.forall_mem_cons.mpr ⟨hlow, List.forall_mem_singleton.mpr hhigh⟩
  | unsupported kind test => exact .operand .always

/-- A pin is readable as a predicate. -/
lemma GroupColumn.readable (c : GroupColumn) (key : String) : Readable .predicate (c.pin key) :=
  .comparison (by decide) (.asText c.field) (.literal (.string key))

/-- An aggregate is readable as an operand. -/
lemma ValueColumn.readable (c : ValueColumn) : Readable .operand c.selectItem.expr := by
  show Readable .operand (.aggregate c.aggregate (Sql.Grammar.conjoin [.column c.field]))
  refine .aggregate _ (List.cons_ne_nil _ _) ?_
  exact List.forall_mem_singleton.mpr (.operand (.column c.field))

/-- The statement of a request is readable. -/
lemma Request.query_readable (r : Request) (w : PageWindow) : (r.query w).Readable where
  select i hi := by
    change i ∈ r.selectClause at hi
    unfold selectClause at hi
    split at hi
    · rcases List.mem_cons.mp hi with rfl | hi
      · exact .column _
      · obtain ⟨c, _, rfl⟩ := List.mem_map.mp hi
        exact c.readable
    · cases hi
  filters e he := by
    rcases List.mem_append.mp he with he | he
    · obtain ⟨c, _, key, _, rfl⟩ := mem_pins he
      exact c.readable key
    · obtain ⟨entry, _, rfl⟩ := List.mem_map.mp he
      exact entry.2.readable entry.1
  groupBy e he := by
    obtain ⟨c, _, rfl⟩ : ∃ c, r.revealed? = some c ∧ .column c.field = e := by
      simpa [query, groupClause] using he
    exact .column c.field

/-! ## Predicates of the clause -/

/-- No predicate is a conjunction, unless in parentheses. -/
lemma Sql.Readable.visible_ne_and {d : Dialect} {e : Expr} (h : Readable .predicate e)
    (left right : Expr) : e.visible d ≠ .binary .and left right := by
  cases h with
  | operand h => cases h <;> cases d <;> exact Expr.noConfusion
  | comparison hop _ _ =>
    rw [Sql.visible_binary]
    exact fun e => hop (Expr.binary.inj e).1

/-- A filter has nothing that is turned into text. -/
lemma Filter.visible_toExpr (d : Dialect) (f : Filter) (column : String) :
    (f.toExpr column).visible d = f.toExpr column := by
  cases d <;> cases f <;> rfl

/--
The parameterized statement of a valid request whose names are identifiers can be read: a parser that
knows neither the request nor the dialect gets the planned statement back from the text and the values,
as far as the dialect writes it.  Its predicates are one for each key and then one for each filter.
That of a range is a conjunction in parentheses, and no other predicate is a conjunction.
-/
theorem Request.parameterized_readable (r : Request) (d : Dialect) (valid : r.validate = .ok ())
    (identifiers : ∀ name ∈ r.names, isIdentifier name) :
    ∃ (p : Plan) (s : Statement) (q : Query),
      r.plan = .ok p ∧ r.compileParameterized d = .ok s ∧
      Sql.parse ⟨s.sql, s.params⟩ = some q ∧ q = p.query.visible d ∧
      q.filters.length = r.groupKeys.length + r.filters.length ∧
      (∀ (i : Nat) (column : GroupColumn) (key : String),
        r.groupColumns[i]? = some column → r.groupKeys[i]? = some key →
        q.filters[i]? = some ((column.pin key).visible d)) ∧
      (∀ (j : Nat) (column : String) (f : Filter), r.filters[j]? = some (column, f) →
        q.filters[r.groupKeys.length + j]? = some (f.toExpr column)) ∧
      (∀ (j : Nat) (column : String) (low high : Json.Number),
        r.filters[j]? = some (column, .inRange low high) →
        q.filters[r.groupKeys.length + j]? = some (.nested (.binary .and
          (compareColumn column .gte (.number low)) (compareColumn column .lte (.number high))))) ∧
      ∀ e ∈ q.filters, ∀ left right, e ≠ .binary .and left right := by
  obtain ⟨hkeys, w, hw⟩ := validate_inv valid
  have hp := plan_of_valid valid hw
  have hnames : ∀ name ∈ (r.query w).names, isIdentifier name :=
    fun name hn => identifiers name (names_query hn)
  have hread := Sql.Query.parse_render (d := d) hnames (r.query_readable w)
  have hq : ((r.query w).visible d).filters = r.filterClause.map (·.visible d) := by
    rw [Sql.Query.visible_eq]
    rfl
  have hfilter (j : Nat) (column : String) (f : Filter) (hf : r.filters[j]? = some (column, f)) :
      ((r.query w).visible d).filters[r.groupKeys.length + j]? = some (f.toExpr column) := by
    rw [hq, List.getElem?_map, filterClause_filter hkeys hf, Option.map_some, f.visible_toExpr d]
  refine ⟨_, _, _, hp, compile_of_plan hp d .parameterized, hread, rfl, ?_, ?_, hfilter, ?_, ?_⟩
  · rw [hq, List.length_map, filterClause, List.length_append, length_pins hkeys, List.length_map]
  · intro i column key hc hk
    rw [hq, List.getElem?_map, filterClause_key hc hk, Option.map_some]
  · intro j column low high hf
    exact hfilter j column _ hf
  · intro e he left right
    rw [hq] at he
    obtain ⟨f, hf, rfl⟩ := List.mem_map.mp he
    exact ((r.query_readable w).filters f hf).visible_ne_and left right

/-- In PostgreSQL the plan for the medals of a country is read back with its columns as text. -/
theorem Request.parameterized_readable_medals :
    (medals "it's" "50%" 3 9).validate = .ok () ∧
      (∀ name ∈ (medals "it's" "50%" 3 9).names, isIdentifier name) ∧
      ∃ s, (medals "it's" "50%" 3 9).compileParameterized .postgres = .ok s ∧
        Sql.parse ⟨s.sql, s.params⟩ = some ((medals "it's" "50%" 3 9).query ⟨0, 100, by decide⟩) := by
  have hv : (medals "it's" "50%" 3 9).validate = .ok () := rfl
  have hi : ∀ name ∈ (medals "it's" "50%" 3 9).names, isIdentifier name := by decide
  refine ⟨hv, hi, ?_⟩
  obtain ⟨p, s, q, hp, hs, hq, rfl, -⟩ := parameterized_readable _ .postgres hv hi
  cases hp
  exact ⟨s, hs, hq⟩

end GridRows
