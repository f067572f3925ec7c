import GridRows.Proofs.Filter
import GridRows.Proofs.Sql.Names
import GridRows.Statement
import Mathlib.Tactic.Lemma

/-!
# Planning facts

What proofs about plans start from.  A valid request has a window, and its plan is a statement with
that window (`Request.plan_of_valid`).  The names that the statement writes are names of the request
(`Request.names_query`), and its literals are texts and numbers (`Request.literals_query`), the numbers
those that the filters compare with (`Request.number_mem_literals`).
-/

namespace GridRows

open Json (Value)
open Sql (Expr SelectItem Query)

/-! ## Valid requests -/

/-- The checks of a request, in their order. -/
lemma Request.validate_eq (r : Request) :
    r.validate =
      if Text.allBlank r.table then .error .noTable
      else if r.groupColumns.length < r.groupKeys.length then
        .error (.surplusKeys r.groupKeys.length r.groupColumns.length)
      else
        match r.groupColumns.find? (·.field.isEmpty), r.valueColumns.find? (·.isIncomplete) with
        | some c, _ => .error (.emptyGroupField c.id)
        | none, some c => .error (.incompleteAggregate c.field)
        | none, none => r.window.map fun _ => () := by
  unfold validate
  cases Text.allBlank r.table with
  | true => rfl
  | false =>
    by_cases hk : r.groupColumns.length < r.groupKeys.length
    · rw [if_pos hk, if_pos hk]; rfl
    · rw [if_neg hk, if_neg hk]
      cases r.groupColumns.find? (·.field.isEmpty) with
      | some c => rfl
      | none =>
        cases r.valueColumns.find? (·.isIncomplete) with
        | some c => rfl
        | none => cases r.window <;> rfl

/-- A request is valid if it passes every check. -/
lemma Request.validate_eq_ok {r : Request} :
    r.validate = .ok () ↔
      Text.allBlank r.table = false ∧ r.groupKeys.length ≤ r.groupColumns.length ∧
        r.groupColumns.find? (·.field.isEmpty) = none ∧
        r.valueColumns.find? (·.isIncomplete) = none ∧ ∃ w, r.window = .ok w := by
  rw [validate_eq]
  constructor
  · intro h
    split at h
    · cases h
    rename_i ht
    split at h
    · cases h
    rename_i hk
    split at h
    · cases h
    · cases h
    rename_i hg hv
    cases e : r.window with
    | error fault => rw [e] at h; cases h
    | ok w => exact ⟨Bool.eq_false_iff.mpr ht, Nat.le_of_not_lt hk, hg, hv, w, rfl⟩
  · rintro ⟨ht, hk, hg, hv, w, hw⟩
    rw [ht, if_neg Bool.false_ne_true, if_neg (Nat.not_lt.mpr hk), hg, hv, hw]
    rfl

/-- A valid request has no more keys than group columns, and it has a window. -/
lemma Request.validate_inv {r : Request} (h : r.validate = .ok ()) :
    r.groupKeys.length ≤ r.groupColumns.length ∧ ∃ w, r.window = .ok w := by
  obtain ⟨-, hk, -, -, hw⟩ := validate_eq_ok.mp h
  exact ⟨hk, hw⟩

/-- A window has the bounds that it was made of. -/
lemma PageWindow.ofBounds_inv {startRow endRow : Int} {w : PageWindow}
    (h : ofBounds startRow endRow = .ok w) : startRow = w.startRow ∧ endRow = w.endRow := by
  unfold ofBounds at h
  split at h
  · cases h
  · split at h
    · cases h
    · cases h
      constructor <;> simp only <;> omega

/-- The page size is the difference of the bounds that the request has. -/
lemma Request.pageSize_of_window {r : Request} {w : PageWindow} (h : r.window = .ok w) :
    (w.pageSize : Int) = r.endRow - r.startRow := by
  obtain ⟨hs, he⟩ := PageWindow.ofBounds_inv h
  have ho := w.ordered
  rw [hs, he, PageWindow.pageSize]
  omega

/-- The statement of a request for a window of rows. -/
def Request.query (r : Request) (w : PageWindow) : Query where
  select := r.selectClause
  table := r.table
  filters := r.filterClause
  groupBy := r.groupClause
  orderBy := r.orderClause
  limit := some w.limit
  offset := some w.offset

/-- The plan of a valid request. -/
lemma Request.plan_of_valid {r : Request} {w : PageWindow} (h : r.validate = .ok ())
    (hw : r.window = .ok w) : r.plan = .ok ⟨r.query w, r.grouping, r.ignoredFilters⟩ := by
  unfold plan
  rw [h, hw]
  rfl

/-- What a request compiles to is the statement of its plan. -/
lemma Request.compile_of_plan {r : Request} {p : Plan} (h : r.plan = .ok p) (d : Sql.Dialect)
    (mode : Sql.RenderMode) : r.compile d mode = .ok (p.statement d mode) := by
  rw [compile, h]
  rfl

/-- The text with values inline is that of the plan. -/
lemma Request.inlineSql_of_plan {r : Request} {p : Plan} (h : r.plan = .ok p) (d : Sql.Dialect) :
    r.inlineSql d = .ok (p.query.render d .inline).sql := by
  rw [inlineSql, compile_of_plan h]
  rfl

/-! ## Predicates -/

section Predicates

variable {r : Request}

/-- There is a pin for each key. -/
lemma Request.length_pins (h : r.groupKeys.length ≤ r.groupColumns.length) :
    (List.zipWith GroupColumn.pin r.groupColumns r.groupKeys).length = r.groupKeys.length := by
  rw [List.length_zipWith, Nat.min_eq_right h]

/-- The predicates begin with one for each key. -/
lemma Request.filterClause_key {i : Nat} {column : GroupColumn} {key : String}
    (hc : r.groupColumns[i]? = some column) (hk : r.groupKeys[i]? = some key) :
    r.filterClause[i]? = some (column.pin key) := by
  have hz : (List.zipWith GroupColumn.pin r.groupColumns r.groupKeys)[i]? =
      some (column.pin key) := by
    rw [List.getElem?_zipWith, hc, hk]
  obtain ⟨hi, -⟩ := List.getElem?_eq_some_iff.mp hz
  rw [filterClause, List.getElem?_append_left hi, hz]

/-- After those of the keys there is one predicate for each filter. -/
lemma Request.filterClause_filter (h : r.groupKeys.length ≤ r.groupColumns.length) {j : Nat}
    {column : String} {f : Filter} (hf : r.filters[j]? = some (column, f)) :
    r.filterClause[r.groupKeys.length + j]? = some (f.toExpr column) := by
  rw [filterClause, List.getElem?_append_right (by rw [length_pins h]; omega), length_pins h,
    Nat.add_sub_cancel_left, List.getElem?_map, hf]
  rfl

end Predicates

/-! ## Names -/

/-- The names of a request that can reach a statement. -/
def Request.names (r : Request) : List String :=
  r.table :: r.groupColumns.map (·.field) ++ r.valueColumns.map (·.field) ++
    r.valueColumns.map (·.aggregate) ++ r.filters.map (·.1) ++ r.sorts.map (·.column)

section Names

variable {r : Request}

/-- The field of a group column is a name of the request. -/
lemma Request.mem_names_groupColumn {c : GroupColumn} (h : c ∈ r.groupColumns) :
    c.field ∈ r.names := by
  have hc : c.field ∈ r.groupColumns.map (·.field) := List.mem_map_of_mem h
  simp [names, hc]

/-- The field and the aggregate of a value column are names of the request. -/
lemma Request.mem_names_valueColumn {c : ValueColumn} (h : c ∈ r.valueColumns) :
    c.field ∈ r.names ∧ c.aggregate ∈ r.names := by
  have hf : c.field ∈ r.valueColumns.map (·.field) := List.mem_map_of_mem h
  have ha : c.aggregate ∈ r.valueColumns.map (·.aggregate) := List.mem_map_of_mem h
  constructor
  · simp [names, hf]
  · simp [names, ha]

/-- The column of a filter is a name of the request. -/
lemma Request.mem_names_filter {entry : String × Filter} (h : entry ∈ r.filters) :
    entry.1 ∈ r.names := by
  have he : entry.1 ∈ r.filters.map (·.1) := List.mem_map_of_mem h
  simp [names, he]

/-- The column of a sort item is a name of the request. -/
lemma Request.mem_names_sort {i : SortItem} (h : i ∈ r.sorts) : i.column ∈ r.names := by
  have hi : i.column ∈ r.sorts.map (·.column) := List.mem_map_of_mem h
  simp [names, hi]

end Names

/-- The predicate of a filter names its column alone. -/
lemma Filter.names_toExpr {f : Filter} {column name : String} (h : name ∈ (f.toExpr column).names) :
    name = column := by
  cases f with
  | text test operand => simpa [toExpr, compareColumn, Expr.names] using h
  | number comparison operand => simpa [toExpr, compareColumn, Expr.names] using h
  | inRange low high => simpa [toExpr, compareColumn, Expr.names] using h
  | unsupported kind test => simp [toExpr, Expr.names] at h

/-- A pin names the field of its column alone. -/
lemma GroupColumn.names_pin (c : GroupColumn) (key : String) : (c.pin key).names = [c.field] := rfl

/-- The revealed column is one of the group columns. -/
lemma Request.revealed_mem {r : Request} {c : GroupColumn} (h : r.revealed? = some c) :
    c ∈ r.groupColumns := by
  unfold revealed? GroupingDepth.next? at h
  split at h
  · exact List.mem_of_getElem? h
  · cases h

/-- An expression that pins a level does so for one of the group columns and one of the keys. -/
lemma Request.mem_pins {r : Request} {e : Expr}
    (h : e ∈ List.zipWith GroupColumn.pin r.groupColumns r.groupKeys) :
    ∃ c ∈ r.groupColumns, ∃ key ∈ r.groupKeys, e = c.pin key := by
  obtain ⟨i, hi, rfl⟩ := List.mem_iff_getElem.mp h
  rw [List.length_zipWith] at hi
  rw [List.getElem_zipWith]
  exact ⟨_, List.getElem_mem _, _, List.getElem_mem _, rfl⟩

/-- What is selected names nothing but what the request does. -/
lemma Request.names_selectClause {r : Request} {i : SelectItem} {name : String}
    (hi : i ∈ r.selectClause) (h : name ∈ i.names) : name ∈ r.names := by
  unfold selectClause at hi
  split at hi
  · rename_i c hc
    rcases List.mem_cons.mp hi with rfl | hi
    · have e : name = c.field := by simpa [SelectItem.names, Expr.names] using h
      exact e ▸ mem_names_groupColumn (revealed_mem hc)
    · obtain ⟨v, hv, rfl⟩ := List.mem_map.mp hi
      have e : name = v.aggregate ∨ name = v.field := by
        simpa [ValueColumn.selectItem, SelectItem.names, Expr.names] using h
      rcases e with rfl | rfl
      · exact (mem_names_valueColumn hv).2
      · exact (mem_names_valueColumn hv).1
  · cases hi

/-- The conditions name nothing but what the request does. -/
lemma Request.names_filterClause {r : Request} {e : Expr} {name : String}
    (he : e ∈ r.filterClause) (h : name ∈ e.names) : name ∈ r.names := by
  rcases List.mem_append.mp he with he | he
  · obtain ⟨c, hc, key, _, rfl⟩ := mem_pins he
    rw [c.names_pin, List.mem_singleton] at h
    exact h ▸ mem_names_groupColumn hc
  · obtain ⟨entry, hf, rfl⟩ := List.mem_map.mp he
    exact Filter.names_toExpr h ▸ mem_names_filter hf

/-- What is grouped by names nothing but what the request does. -/
lemma Request.names_groupClause {r : Request} {e : Expr} {name : String}
    (he : e ∈ r.groupClause) (h : name ∈ e.names) : name ∈ r.names := by
  obtain ⟨c, hc, rfl⟩ : ∃ c, r.revealed? = some c ∧ .column c.field = e := by
    simpa [groupClause] using he
  have e : name = c.field := by simpa [Expr.names] using h
  exact e ▸ mem_names_groupColumn (revealed_mem hc)

/-- The statement of a request writes no names but those of the request. -/
lemma Request.names_query {r : Request} {w : PageWindow} {name : String}
    (h : name ∈ (r.query w).names) : name ∈ r.names := by
  simp only [query, Query.names, List.cons_append, List.mem_cons, List.mem_append, List.mem_flatMap,
    List.mem_map] at h
  rcases h with rfl | ((⟨i, hi, h⟩ | ⟨e, he, h⟩) | ⟨e, he, h⟩) | ⟨i, hi, rfl⟩
  · exact List.mem_cons_self
  · exact names_selectClause hi h
  · exact names_filterClause he h
  · exact names_groupClause he h
  · exact mem_names_sort (List.mem_filter.mp hi).1

/-! ## Literals -/

/-- A value that a column is compared with. -/
inductive Operand : Value → Prop where
  | text (s : String) : Operand (.string s)
  | number (n : Json.Number) : Operand (.number n)

/-- The values in the predicate of a filter are operands. -/
lemma Filter.literals_toExpr {f : Filter} {column : String} {v : Value}
    (h : v ∈ (f.toExpr column).literals) : Operand v := by
  cases f with
  | text test operand =>
    have e : v = .string (test.predicate operand).2 := by
      simpa [toExpr, compareColumn, Expr.literals] using h
    exact e ▸ .text _
  | number comparison operand =>
    have e : v = .number operand := by simpa [toExpr, compareColumn, Expr.literals] using h
    exact e ▸ .number _
  | inRange low high =>
    have e : v = .number low ∨ v = .number high := by
      simpa [toExpr, compareColumn, Expr.literals] using h
    rcases e with rfl | rfl <;> exact .number _
  | unsupported kind test => simp [toExpr, Expr.literals] at h

/-- There are no values in what is selected. -/
lemma Request.literals_selectClause (r : Request) :
    r.selectClause.flatMap (·.expr.literals) = [] := by
  unfold selectClause
  split
  · simp [Expr.literals, ValueColumn.selectItem, List.flatMap_map]
  · rfl

/-- Only the predicates of a statement hold literals. -/
lemma Request.literals_query_eq (r : Request) (w : PageWindow) :
    (r.query w).literals = r.filterClause.flatMap (·.literals) := by
  have hg : r.groupClause.flatMap (·.literals) = [] := by
    unfold groupClause
    cases r.revealed? <;> rfl
  simp [Query.literals, query, r.literals_selectClause, hg]

/-- The literals of a statement are texts and numbers. -/
lemma Request.literals_query {r : Request} {w : PageWindow} {v : Value}
    (h : v ∈ (r.query w).literals) : Operand v := by
  rw [literals_query_eq] at h
  obtain ⟨e, he, h⟩ := List.mem_flatMap.mp h
  rcases List.mem_append.mp he with he | he
  · obtain ⟨c, _, key, _, rfl⟩ := mem_pins he
    have e : v = .string key := by simpa [GroupColumn.pin, Expr.literals] using h
    exact e ▸ .text key
  · obtain ⟨entry, _, rfl⟩ := List.mem_map.mp he
    exact Filter.literals_toExpr h

/-- The numbers among the literals of a predicate are those that the filter compares with. -/
lemma Filter.number_mem_literals {f : Filter} {column : String} {n : Json.Number} :
    .number n ∈ (f.toExpr column).literals ↔ n ∈ f.numbers := by
  cases f with
  | text test operand => simp [toExpr, compareColumn, Expr.literals, numbers]
  | number comparison operand => simp [toExpr, compareColumn, Expr.literals, numbers]
  | inRange low high => simp [toExpr, compareColumn, Expr.literals, numbers]
  | unsupported kind test => simp [toExpr, Expr.literals, numbers]

/-- The numbers among the literals of a statement are those that the filters compare with. -/
lemma Request.number_mem_literals {r : Request} {w : PageWindow} {n : Json.Number} :
    .number n ∈ (r.query w).literals ↔
      ∃ column f, (column, f) ∈ r.filters ∧ n ∈ f.numbers := by
  rw [literals_query_eq, List.mem_flatMap]
  constructor
  · rintro ⟨e, he, h⟩
    rcases List.mem_append.mp he with he | he
    · obtain ⟨c, _, key, _, rfl⟩ := mem_pins he
      simp [GroupColumn.pin, Expr.literals] at h
    · obtain ⟨⟨column, f⟩, hf, rfl⟩ := List.mem_map.mp he
      exact ⟨column, f, hf, Filter.number_mem_literals.mp h⟩
  · rintro ⟨column, f, hf, h⟩
    have hexpr : f.toExpr column ∈ r.filterClause :=
      List.mem_append_right _ (List.mem_map_of_mem (f := fun entry => entry.2.toExpr entry.1) hf)
    exact ⟨_, hexpr, Filter.number_mem_literals.mpr h⟩

/-! ## A sample request -/

/-- The gold medals of one country by year: a level expanded, a level left, a filter of each kind. -/
def Request.medals (key part : String) (low high : Int64) : Request where
  table := "olympics"
  groupColumns := [⟨"country", "country"⟩, ⟨"year", "year"⟩]
  groupKeys := [key]
  valueColumns := [⟨"gold", "sum"⟩]
  filterModel := some [
    ("athlete", .text .contains part),
    ("age", .inRange (.ofInt64 low) (.ofInt64 high)),
    ("gold", .number .greaterThan (.ofInt64 low)),
    ("date", .unsupported "date" (some "equals"))]
  sortModel := some [⟨"year", .desc⟩, ⟨"athlete", .asc⟩]
  startRow := 0
  endRow := 100

end GridRows
