import GridRows.Proofs.Plan
import GridRows.Proofs.Sql.Clauses

/-!
# Clauses of planned statements

Every clause of a plan said on the lists of the request.  The group column after the keys is revealed
(`Request.revealed_eq`), and with it go what is selected, what is grouped by and what may be sorted
by; without it rows are shown as they are.  Pins, filters and the window are there at every level.

The main statement is `Request.clauses_agree`, for the tree of the statement and, with the same
clauses, for its text in all dialects and modes.
-/

namespace GridRows

open Sql (Dialect Expr RenderMode Template clauseText sortText)

/-! ## The level that is revealed -/

section Level

variable {r : Request}

/-- The group column that is revealed is the one after the keys. -/
lemma Request.revealed_eq (r : Request) : r.revealed? = r.groupColumns[r.groupKeys.length]? := by
  unfold revealed? GroupingDepth.next?
  cases hg : r.grouping.isGrouping with
  | true => rfl
  | false =>
    have hle : r.groupColumns.length ≤ r.groupKeys.length :=
      Nat.le_of_not_lt (of_decide_eq_false hg)
    exact (List.getElem?_eq_none hle).symm

/-- A request with fewer keys than group columns reveals the column behind those that are pinned. -/
lemma Request.revealed_of_lt (h : r.groupKeys.length < r.groupColumns.length) :
    ∃ column, r.groupColumns[r.groupKeys.length]? = some column ∧ r.revealed? = some column := by
  have hc := List.getElem?_eq_getElem h
  exact ⟨_, hc, r.revealed_eq.trans hc⟩

/-- A request with a key for each group column reveals rows and no groups. -/
lemma Request.revealed_of_le (h : r.groupColumns.length ≤ r.groupKeys.length) :
    r.revealed? = none :=
  r.revealed_eq.trans (List.getElem?_eq_none h)

/-- A revealed level is selected before the aggregates, which are named after their fields. -/
lemma Request.selectClause_some {column : GroupColumn} (h : r.revealed? = some column) :
    r.selectClause = ⟨.column column.field, none⟩ ::
      r.valueColumns.map fun v => ⟨.aggregate v.aggregate (.column v.field), some v.field⟩ := by
  unfold selectClause
  rw [h]
  rfl

/-- A page of rows selects everything. -/
lemma Request.selectClause_none (h : r.revealed? = none) : r.selectClause = [] := by
  rw [selectClause, h]

/-- A revealed level is what its statement groups by. -/
lemma Request.groupClause_some {column : GroupColumn} (h : r.revealed? = some column) :
    r.groupClause = [.column column.field] := by
  rw [groupClause, h]
  rfl

/-- A page of rows is not grouped. -/
lemma Request.groupClause_none (h : r.revealed? = none) : r.groupClause = [] := by
  rw [groupClause, h]
  rfl

/-- Rows are shown as they are exactly if there is a key for every group column. -/
lemma Request.selectClause_eq_nil :
    r.selectClause = [] ↔ r.groupColumns.length ≤ r.groupKeys.length := by
  refine ⟨fun h => Nat.le_of_not_lt fun hlt => ?_, fun h => selectClause_none (revealed_of_le h)⟩
  obtain ⟨column, -, hr⟩ := revealed_of_lt hlt
  rw [selectClause_some hr] at h
  cases h

/-- Nothing is grouped exactly if every group column has its key. -/
lemma Request.groupClause_eq_nil :
    r.groupClause = [] ↔ r.groupColumns.length ≤ r.groupKeys.length := by
  refine ⟨fun h => Nat.le_of_not_lt fun hlt => ?_, fun h => groupClause_none (revealed_of_le h)⟩
  obtain ⟨column, -, hr⟩ := revealed_of_lt hlt
  rw [groupClause_some hr] at h
  cases h

/-- While a level is revealed, only the ids of that level and of those above it are sorted by. -/
lemma Request.orderClause_of_lt (h : r.groupKeys.length < r.groupColumns.length) :
    r.orderClause = r.sorts.filter fun i =>
      i.column ∈ (r.groupColumns.take (r.groupKeys.length + 1)).map (·.id) := by
  have hg : r.grouping.isGrouping = true := decide_eq_true h
  unfold orderClause
  refine List.filter_congr fun i _ => ?_
  rw [hg, Bool.not_true, Bool.false_or, List.contains_eq_mem]
  rfl

/-- A page of rows is sorted by all that the request asks for. -/
lemma Request.orderClause_of_le (h : r.groupColumns.length ≤ r.groupKeys.length) :
    r.orderClause = r.sorts := by
  have hg : r.grouping.isGrouping = false := decide_eq_false (Nat.not_lt.mpr h)
  unfold orderClause
  refine List.filter_eq_self.mpr fun i _ => ?_
  rw [hg, Bool.not_false, Bool.true_or]

end Level

/-! ## The text of the clauses -/

/-- The predicates as they are written, with what the mode has for each value. -/
def Request.conditions (r : Request) (d : Dialect) (mode : RenderMode) : List String :=
  Template.texts (mode.filling d) 0 (r.filterClause.map (·.template d))

/-- The text of a statement for the request, given what it selects, groups by and sorts by. -/
def Request.textWith (r : Request) (d : Dialect) (mode : RenderMode) (select groups : String)
    (orders : List SortItem) : String :=
  select ++ " FROM " ++ r.table ++ clauseText " where " " and " (r.conditions d mode) ++ groups ++
    clauseText " order by " ", " (orders.map sortText) ++
    (" limit " ++ toString (r.endRow - r.startRow + 1)) ++ (" offset " ++ toString r.startRow)

section Text

variable {r : Request} {d : Dialect} {mode : RenderMode} {w : PageWindow}

/-- The texts of the window are those of its bounds in the request. -/
lemma Request.window_text (h : r.window = .ok w) :
    toString w.limit = toString (r.endRow - r.startRow + 1) ∧
      toString w.offset = toString r.startRow := by
  have hsize := pageSize_of_window h
  obtain ⟨hs, -⟩ := PageWindow.ofBounds_inv h
  rw [← hsize, hs]
  exact ⟨rfl, rfl⟩

/-- Nothing that is selected has a value, so the predicates have the first places. -/
lemma Request.sql_eq {select groups : String} (h : r.window = .ok w)
    (hs : (Sql.selectTemplate d r.selectClause).fillFrom (mode.filling d) 0 = select)
    (hg : ∀ n, clauseText " group by " ", "
      (Template.texts (mode.filling d) n (r.groupClause.map (·.template d))) = groups) :
    ((r.query w).render d mode).sql = r.textWith d mode select groups r.orderClause := by
  obtain ⟨hlimit, hoffset⟩ := window_text h
  have hv : ((r.query w).select.flatMap (·.expr.literals)).length = 0 :=
    congrArg List.length r.literals_selectClause
  have hsql := (r.query w).sql_eq d mode
  rw [hv] at hsql
  have hs' : (Sql.selectTemplate d (r.query w).select).fillFrom (mode.filling d) 0 = select := hs
  have hg' (n : Nat) : clauseText " group by " ", "
      (Template.texts (mode.filling d) n ((r.query w).groupBy.map (·.template d))) = groups := hg n
  rw [hsql, hs', hg', textWith, ← hlimit, ← hoffset]
  rfl

/-- What is selected at a revealed level, as it is written. -/
lemma Request.select_text {column : GroupColumn} (hr : r.revealed? = some column) :
    (Sql.selectTemplate d r.selectClause).fillFrom (mode.filling d) 0 =
      " select " ++ ", ".intercalate (column.field ::
        r.valueColumns.map fun v => v.aggregate ++ "(" ++ v.field ++ ") as " ++ v.field) := by
  have hv (n : Nat) : Template.texts (mode.filling d) n
        ((r.valueColumns.map ValueColumn.selectItem).map (·.template d)) =
      r.valueColumns.map fun v => v.aggregate ++ "(" ++ v.field ++ ") as " ++ v.field := by
    rw [List.map_map]
    refine Template.texts_map (fun v n => ?_) n r.valueColumns
    have hlabel : ")" ++ (" as " ++ v.field) = ") as " ++ v.field := by
      rw [← String.append_assoc]
      rfl
    simp [ValueColumn.selectItem, Sql.SelectItem.template, Expr.template, Template.fillFrom,
      String.append_assoc, hlabel]
  have hc : r.selectClause =
      ⟨.column column.field, none⟩ :: r.valueColumns.map ValueColumn.selectItem := by
    rw [selectClause, hr]
  rw [hc, Sql.selectTemplate_cons, Template.fillFrom_clause, List.map_cons, Template.texts, hv]
  simp [Sql.SelectItem.template, Expr.template, Template.fillFrom, clauseText]

/-- The text of a statement for groups: its aggregates, and the level that it groups by. -/
lemma Request.sql_revealing {column : GroupColumn} (h : r.window = .ok w)
    (hr : r.revealed? = some column) :
    ((r.query w).render d mode).sql = r.textWith d mode
      (" select " ++ ", ".intercalate (column.field ::
        r.valueColumns.map fun v => v.aggregate ++ "(" ++ v.field ++ ") as " ++ v.field))
      (" group by " ++ column.field) r.orderClause := by
  refine sql_eq h (select_text hr) fun n => ?_
  rw [groupClause_some hr]
  simp [Template.texts, Expr.template, Template.fillFrom, clauseText]

/-- The text of a statement for rows. -/
lemma Request.sql_leaf (h : r.window = .ok w) (hr : r.revealed? = none) :
    ((r.query w).render d mode).sql = r.textWith d mode " select *" "" r.orderClause := by
  refine sql_eq h ?_ fun n => ?_
  · rw [selectClause_none hr]
    rfl
  · rw [groupClause_none hr]
    rfl

/-- Pins hold the keys, one each. -/
lemma GroupColumn.literals_pins {columns : List GroupColumn} {keys : List String}
    (h : keys.length ≤ columns.length) :
    (List.zipWith GroupColumn.pin columns keys).flatMap (·.literals) =
      keys.map Json.Value.string := by
  induction keys generalizing columns with
  | nil => simp
  | cons key keys ih =>
    cases columns with
    | nil => cases h
    | cons column columns =>
      rw [List.zipWith_cons_cons, List.flatMap_cons, ih (Nat.le_of_succ_le_succ h)]
      rfl

/-- A predicate is written with the places that those before it leave. -/
lemma Request.conditions_getElem? {i : Nat} {e : Expr} (h : r.filterClause[i]? = some e) :
    (r.conditions d mode)[i]? = some ((e.template d).fillFrom (mode.filling d)
      ((r.filterClause.take i).flatMap (·.literals)).length) := by
  have ht : (r.filterClause.map (·.template d))[i]? = some (e.template d) := by
    rw [List.getElem?_map, h]
    rfl
  rw [conditions, Template.texts_getElem? ht, Nat.zero_add, ← List.map_take, List.flatMap_map]
  simp only [Expr.values_template]

/-- The pin of a level is written with the place of that level. -/
lemma Request.conditions_key (hk : r.groupKeys.length ≤ r.groupColumns.length) {i : Nat}
    {column : GroupColumn} {key : String} (hc : r.groupColumns[i]? = some column)
    (hi : r.groupKeys[i]? = some key) :
    (r.conditions d mode)[i]? =
      some (column.field ++ d.castSuffix ++ " = " ++ mode.filling d i (.string key)) := by
  obtain ⟨hlt, -⟩ := List.getElem?_eq_some_iff.mp hi
  have hplace : ((r.filterClause.take i).flatMap (·.literals)).length = i := by
    have hpins : i ≤ (List.zipWith GroupColumn.pin r.groupColumns r.groupKeys).length := by
      rw [length_pins hk]
      exact Nat.le_of_lt hlt
    have hle : (r.groupKeys.take i).length ≤ (r.groupColumns.take i).length := by
      rw [List.length_take, List.length_take]
      omega
    rw [filterClause, List.take_append_of_le_length hpins, List.take_zipWith,
      GroupColumn.literals_pins hle, List.length_map, List.length_take]
    omega
  rw [conditions_getElem? (filterClause_key hc hi), hplace]
  simp [GroupColumn.pin, Expr.template, Template.fillFrom, Sql.BinaryOperator.spelling,
    String.append_assoc]

/-- There is one condition for each key and one for each filter. -/
lemma Request.length_filterClause (hk : r.groupKeys.length ≤ r.groupColumns.length) :
    r.filterClause.length = r.groupKeys.length + r.filters.length := by
  rw [filterClause, List.length_append, length_pins hk, List.length_map]

/-- The text has one condition for each key and one for each filter. -/
lemma Request.length_conditions (hk : r.groupKeys.length ≤ r.groupColumns.length) :
    (r.conditions d mode).length = r.groupKeys.length + r.filters.length := by
  rw [conditions, Template.length_texts, List.length_map, length_filterClause hk]

end Text

/--
The clauses of a valid request with `k` keys and `n` group columns, as planned and as written in every
dialect and mode.  While `k < n`, the group column after the keys is selected with one aggregate for
each value column and is grouped by, and of the sort items those stay whose id is among the first
`k + 1` group ids.  Otherwise everything is selected, nothing is grouped by and all sort items stay.
The predicates are one for each key, comparing the group column at its place as text, and one for
each filter; the limit is one more than the window holds, and the offset is its first row.
-/
theorem Request.clauses_agree {r : Request} (valid : r.validate = .ok ()) :
    let k := r.groupKeys.length
    let n := r.groupColumns.length
    k ≤ n ∧ ∃ p, r.plan = .ok p ∧
      (k < n → ∃ column orders, r.groupColumns[k]? = some column ∧
        orders = r.sorts.filter (·.column ∈ (r.groupColumns.take (k + 1)).map (·.id)) ∧
        p.query.select = ⟨.column column.field, none⟩ ::
          r.valueColumns.map (fun v => ⟨.aggregate v.aggregate (.column v.field), some v.field⟩) ∧
        p.query.groupBy = [.column column.field] ∧ p.query.orderBy = orders ∧
        ∀ d mode, ∃ s, r.compile d mode = .ok s ∧ s.sql = r.textWith d mode
          (" select " ++ ", ".intercalate (column.field ::
            r.valueColumns.map fun v => v.aggregate ++ "(" ++ v.field ++ ") as " ++ v.field))
          (" group by " ++ column.field) orders) ∧
      (k = n → p.query.select = [] ∧ p.query.groupBy = [] ∧ p.query.orderBy = r.sorts ∧
        ∀ d mode, ∃ s, r.compile d mode = .ok s ∧
          s.sql = r.textWith d mode " select *" "" r.sorts) ∧
      p.query.filters.length = k + r.filters.length ∧
      (∀ d mode, (r.conditions d mode).length = k + r.filters.length) ∧
      (∀ (i : Nat) (column : GroupColumn) (key : String),
        r.groupColumns[i]? = some column → r.groupKeys[i]? = some key →
        p.query.filters[i]? =
          some (.binary .eq (.asText (.column column.field)) (.literal (.string key))) ∧
        ∀ d mode, (r.conditions d mode)[i]? =
          some (column.field ++ d.castSuffix ++ " = " ++ mode.filling d i (.string key))) ∧
      (∀ (j : Nat) (column : String) (f : Filter), r.filters[j]? = some (column, f) →
        p.query.filters[k + j]? = some (f.toExpr column) ∧
        ∀ d mode, (r.conditions d mode)[k + j]? =
          some (((f.toExpr column).template d).fillFrom (mode.filling d)
            ((p.query.filters.take (k + j)).flatMap (·.literals)).length)) ∧
      ∃ limit offset : Nat, p.query.limit = some limit ∧ p.query.offset = some offset ∧
        limit = r.endRow - r.startRow + 1 ∧ offset = r.startRow := by
  intro k n
  obtain ⟨hk, w, hw⟩ := validate_inv valid
  have hp := plan_of_valid valid hw
  refine ⟨hk, _, hp, ?_, ?_, length_filterClause hk, fun d mode => length_conditions hk, ?_, ?_, ?_⟩
  · intro h
    -- a level is revealed, and what is below it cannot be sorted by
    obtain ⟨column, hc, hr⟩ := revealed_of_lt h
    have horder := orderClause_of_lt h
    refine ⟨column, _, hc, rfl, selectClause_some hr, groupClause_some hr, horder, fun d mode => ?_⟩
    refine ⟨_, compile_of_plan hp d mode, ?_⟩
    rw [← horder]
    exact sql_revealing hw hr
  · intro h
    have hr := revealed_of_le (Nat.le_of_eq h.symm)
    have horder := orderClause_of_le (Nat.le_of_eq h.symm)
    refine ⟨selectClause_none hr, groupClause_none hr, horder, fun d mode => ?_⟩
    refine ⟨_, compile_of_plan hp d mode, ?_⟩
    rw [← horder]
    exact sql_leaf hw hr
  · intro i column key hc hi
    exact ⟨filterClause_key hc hi, fun d mode => conditions_key hk hc hi⟩
  · intro j column f hf
    -- the filters stand behind the pins, each with the places that those before it leave
    have he := filterClause_filter hk hf
    exact ⟨he, fun d mode => conditions_getElem? he⟩
  · have hsize := pageSize_of_window hw
    obtain ⟨hs, -⟩ := PageWindow.ofBounds_inv hw
    refine ⟨w.limit, w.offset, rfl, rfl, ?_, hs.symm⟩
    rw [PageWindow.limit]
    omega

/-- The years of one country in PostgreSQL: the sort by athletes is dropped, that by years stays. -/
theorem Request.clauses_agree_medals :
    (medals "USA" "Phelps" 20 30).validate = .ok () ∧
    ∃ s, (medals "USA" "Phelps" 20 30).compile .postgres .parameterized = .ok s ∧
      s.sql = " select year, sum(gold) as gold FROM olympics where country::text = $1::text " ++
        "and athlete like $2::text and (age >= $3::float8 and age <= $4::float8) " ++
        "and gold > $5::float8 and true group by year order by year desc limit 101 offset 0" := by
  have valid : (medals "USA" "Phelps" 20 30).validate = .ok () := rfl
  obtain ⟨-, p, hp, hreveal, -⟩ := clauses_agree valid
  obtain ⟨column, orders, hc, ho, -, -, -, htext⟩ := hreveal (by decide)
  obtain ⟨s, hs, hsql⟩ := htext .postgres .parameterized
  refine ⟨valid, s, hs, ?_⟩
  cases hc
  rw [hsql, ho]
  decide +kernel

end GridRows
