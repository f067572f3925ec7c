import GridRows.Proofs.Plan
import GridRows.Proofs.Sql.Template
import Mathlib.Data.List.Forall2

/-!
# Independence of values

The values of a request are its group keys and the operands of its filters.  Blanking empties the
texts among them and replaces the numbers, so two requests agree off their values if they are equal
once blanked.  `Request.query_congr` carries such an agreement through the planner and
`Query.template_mapLiterals` through the renderer.

The main statement is `Request.parameterized_independent`: the parameterized text does not depend on
values, because a placeholder looks at the kind of its value and at nothing else.
-/

namespace GridRows

open Json (Value Number)
open Sql (Dialect Expr Piece Query SelectItem Template)

/-! ## Statements with other literals -/

/-- The expression with each literal replaced. -/
def Sql.Expr.mapLiterals (f : Value → Value) : Expr → Expr
  | .column name => .column name
  | .literal v => .literal (f v)
  | .binary op left right => .binary op (left.mapLiterals f) (right.mapLiterals f)
  | .nested inner => .nested (inner.mapLiterals f)
  | .aggregate function inner => .aggregate function (inner.mapLiterals f)
  | .asText inner => .asText (inner.mapLiterals f)
  | .always => .always

/-- The selected expression with each literal replaced. -/
def Sql.SelectItem.mapLiterals (f : Value → Value) (i : SelectItem) : SelectItem :=
  { i with expr := i.expr.mapLiterals f }

/-- The statement with each literal replaced. -/
def Sql.Query.mapLiterals (f : Value → Value) (q : Query) : Query :=
  { q with
    select := q.select.map (·.mapLiterals f)
    filters := q.filters.map (·.mapLiterals f)
    groupBy := q.groupBy.map (·.mapLiterals f) }

/-- The piece with the value of its gap replaced. -/
def Sql.Piece.mapGap (f : Value → Value) : Piece → Piece
  | .text s => .text s
  | .gap v => .gap (f v)

namespace Sql

variable {d : Dialect} {f : Value → Value}

/-- Changing the values of an expression changes the gaps of its template and no text. -/
lemma Expr.template_mapLiterals (e : Expr) :
    (e.mapLiterals f).template d = (e.template d).map (Piece.mapGap f) := by
  induction e with
  | column name => rfl
  | literal v => rfl
  | binary op left right ihl ihr => simp [mapLiterals, template, Piece.mapGap, ihl, ihr]
  | nested inner ih => simp [mapLiterals, template, Piece.mapGap, ih]
  | aggregate function inner ih => simp [mapLiterals, template, Piece.mapGap, ih]
  | asText inner ih => simp [mapLiterals, template, Piece.mapGap, ih]
  | always => rfl

/-- Changing the values of a selected item changes the gaps of its template and no text. -/
lemma SelectItem.template_mapLiterals (i : SelectItem) :
    (i.mapLiterals f).template d = (i.template d).map (Piece.mapGap f) := by
  unfold template mapLiterals
  cases i.label with
  | none => exact i.expr.template_mapLiterals
  | some name => simp [Piece.mapGap, i.expr.template_mapLiterals]

/-- Gaps may be changed before or after templates are joined. -/
lemma Template.map_joined (separator : String) (ts : List Template) :
    (joined separator ts).map (Piece.mapGap f) =
      joined separator (ts.map (List.map (Piece.mapGap f))) := by
  induction ts with
  | nil => rfl
  | cons t ts ih =>
    cases ts with
    | nil => rfl
    | cons u ts => simpa [joined, Piece.mapGap] using ih

/-- Gaps may be changed before or after templates become a clause. -/
lemma Template.map_clause (keyword separator : String) (ts : List Template) :
    (clause keyword separator ts).map (Piece.mapGap f) =
      clause keyword separator (ts.map (List.map (Piece.mapGap f))) := by
  cases ts with
  | nil => rfl
  | cons t ts => simp [clause, Piece.mapGap, map_joined]

/-- Replacing the literals of a statement replaces the values of its gaps. -/
lemma Query.template_mapLiterals (q : Query) :
    (q.mapLiterals f).template d = (q.template d).map (Piece.mapGap f) := by
  have hs : selectTemplate d (q.select.map (·.mapLiterals f)) =
      (selectTemplate d q.select).map (Piece.mapGap f) := by
    unfold selectTemplate
    cases q.select with
    | nil => rfl
    | cons i items =>
      simp [Template.map_clause, SelectItem.template_mapLiterals, Function.comp_def]
  simp [template, mapLiterals, hs, Piece.mapGap, Template.map_clause, Expr.template_mapLiterals,
    Function.comp_def]

/-- Replacing the literals of a statement replaces the values that it binds. -/
lemma Query.literals_mapLiterals (q : Query) : (q.mapLiterals f).literals = q.literals.map f := by
  have h : ∀ t : Template, Template.values (t.map (Piece.mapGap f)) = t.values.map f := by
    intro t
    induction t with
    | nil => rfl
    | cons p t ih => cases p <;> simp [Template.values, Piece.mapGap, ih]
  rw [← values_template .mysql, ← values_template .mysql, template_mapLiterals, h]

end Sql

/-! ## Requests with their values blanked -/

/-- A value with its text emptied or its number replaced. -/
def Json.Value.blanked (g : Number → Number) : Value → Value
  | .string _ => .string ""
  | .number n => .number (g n)
  | v => v

/-- The filter with its operands blanked. -/
def Filter.blanked (g : Number → Number) : Filter → Filter
  | .text test _ => .text test ""
  | .number comparison operand => .number comparison (g operand)
  | .inRange low high => .inRange (g low) (g high)
  | .unsupported kind test => .unsupported kind test

/-- The request with its group keys and the operands of its filters blanked. -/
def Request.blanked (g : Number → Number) (r : Request) : Request :=
  { r with
    groupKeys := r.groupKeys.map fun _ => ""
    filterModel := r.filterModel.map (·.map fun entry => (entry.1, entry.2.blanked g)) }

/-- The request without its texts: keys and text operands are empty. -/
def Request.withoutTexts (r : Request) : Request := r.blanked id

/-- The request without its values: keys and text operands are empty, number operands zero. -/
def Request.withoutValues (r : Request) : Request :=
  r.blanked fun _ => .integer 0 ⟨by decide, by decide⟩

section Blanking

variable {g : Number → Number}

/-- A pattern holds nothing of an emptied operand but the marks of its test. -/
lemma Filter.mapLiterals_toExpr (f : Filter) (column : String) :
    (f.toExpr column).mapLiterals (Value.blanked g) =
      ((f.blanked g).toExpr column).mapLiterals (Value.blanked id) := by
  cases f with
  | text test operand => cases test <;> rfl
  | number comparison operand => rfl
  | inRange low high => rfl
  | unsupported kind test => rfl

/-- Of a blanked pin the column is left. -/
lemma GroupColumn.mapLiterals_pin (c : GroupColumn) (key : String) :
    (c.pin key).mapLiterals (Value.blanked g) = c.pin "" := rfl

/-- The filters of a blanked request are the blanked filters, on the same columns. -/
lemma Request.filters_blanked (r : Request) :
    (r.blanked g).filters = r.filters.map fun entry => (entry.1, entry.2.blanked g) := by
  unfold filters blanked
  cases r.filterModel <;> rfl

/-- Blanking does not change the level that a request has reached. -/
lemma Request.grouping_blanked (r : Request) : (r.blanked g).grouping = r.grouping := by
  simp [grouping, blanked]

/-- Blanking does not change the column that is revealed. -/
lemma Request.revealed_blanked (r : Request) : (r.blanked g).revealed? = r.revealed? := by
  unfold revealed?
  rw [grouping_blanked]
  rfl

/-- Blanking does not change what is selected. -/
lemma Request.selectClause_blanked (r : Request) : (r.blanked g).selectClause = r.selectClause := by
  unfold selectClause
  rw [revealed_blanked]
  rfl

/-- Blanking does not change what is grouped by. -/
lemma Request.groupClause_blanked (r : Request) : (r.blanked g).groupClause = r.groupClause := by
  unfold groupClause
  rw [revealed_blanked]

/-- Blanking does not change the order. -/
lemma Request.orderClause_blanked (r : Request) : (r.blanked g).orderClause = r.orderClause := by
  unfold orderClause
  rw [grouping_blanked]
  rfl

/-- Blanking does not change which filters are ignored. -/
lemma Request.ignoredFilters_blanked (r : Request) :
    (r.blanked g).ignoredFilters = r.ignoredFilters := by
  have h : ∀ f : Filter, (f.blanked g).isUnsupported = f.isUnsupported := by
    intro f
    cases f <;> rfl
  simp [ignoredFilters, filters_blanked, List.filter_map, Function.comp_def, h]

/-- The predicates of the blanked request are those of the request, up to their literals. -/
lemma Request.filterClause_blanked (r : Request) :
    r.filterClause.map (·.mapLiterals (Value.blanked g)) =
      (r.blanked g).filterClause.map (·.mapLiterals (Value.blanked id)) := by
  have hp : (List.zipWith GroupColumn.pin r.groupColumns r.groupKeys).map
        (·.mapLiterals (Value.blanked g)) =
      (List.zipWith GroupColumn.pin (r.blanked g).groupColumns (r.blanked g).groupKeys).map
        (·.mapLiterals (Value.blanked id)) := by
    simp only [blanked, List.map_zipWith, List.zipWith_map_right, GroupColumn.mapLiterals_pin]
  unfold filterClause
  rw [List.map_append, List.map_append, hp, filters_blanked, List.map_map, List.map_map,
    List.map_map]
  congr 1
  exact List.map_congr_left fun entry _ => entry.2.mapLiterals_toExpr entry.1

/-- Blanking makes no request valid or invalid. -/
lemma Request.validate_blanked (r : Request) : (r.blanked g).validate = r.validate := by
  rw [validate_eq, validate_eq]
  simp only [blanked, List.length_map]
  rfl

end Blanking

/-- Requests that are equal once blanked have equal statements, up to literals. -/
lemma Request.query_congr {g : Number → Number} {r r' : Request}
    (e : r.blanked g = r'.blanked g) (w : PageWindow) :
    (r.query w).mapLiterals (Value.blanked g) = (r'.query w).mapLiterals (Value.blanked g) := by
  have ht : r.table = r'.table := show (r.blanked g).table = (r'.blanked g).table by rw [e]
  have hs : r.selectClause = r'.selectClause := by
    rw [← selectClause_blanked (g := g), e, selectClause_blanked]
  have hf : r.filterClause.map (·.mapLiterals (Value.blanked g)) =
      r'.filterClause.map (·.mapLiterals (Value.blanked g)) := by
    rw [filterClause_blanked, e, ← filterClause_blanked]
  have hg : r.groupClause = r'.groupClause := by
    rw [← groupClause_blanked (g := g), e, groupClause_blanked]
  have ho : r.orderClause = r'.orderClause := by
    rw [← orderClause_blanked (g := g), e, orderClause_blanked]
  simp only [query, Sql.Query.mapLiterals, ht, hs, hf, hg, ho]

/-- A request that equals a valid one once blanked has a plan for the same window. -/
lemma Request.plan_congr {g : Number → Number} {r r' : Request} {w : PageWindow}
    (e : r.blanked g = r'.blanked g) (valid : r.validate = .ok ()) (hw : r.window = .ok w) :
    r'.plan = .ok ⟨r'.query w, r.grouping, r.ignoredFilters⟩ := by
  -- what is checked and what the window is made of survive blanking, so both requests share them
  have hv : r'.validate = .ok () := by
    rw [← validate_blanked (g := g), ← e, validate_blanked, valid]
  have hw : r'.window = .ok w := by
    rw [← hw]
    exact show (r'.blanked g).window = (r.blanked g).window by rw [e]
  have eg : r'.grouping = r.grouping := by rw [← grouping_blanked (g := g), ← e, grouping_blanked]
  have ei : r'.ignoredFilters = r.ignoredFilters := by
    rw [← ignoredFilters_blanked (g := g), ← e, ignoredFilters_blanked]
  rw [plan_of_valid hv hw, eg, ei]

/-! ## Parameterized statements -/

/-- Two texts, or two numbers. -/
inductive SameKind : Value → Value → Prop where
  | texts (s t : String) : SameKind (.string s) (.string t)
  | numbers (n m : Number) : SameKind (.number n) (.number m)

/-- Operands that are equal once blanked are of one kind. -/
lemma SameKind.of_blanked {g : Number → Number} {v w : Value} (hv : Operand v) (hw : Operand w)
    (e : v.blanked g = w.blanked g) : SameKind v w := by
  cases hv with
  | text s =>
    cases hw with
    | text t => exact .texts s t
    | number m => cases e
  | number n =>
    cases hw with
    | text t => cases e
    | number m => exact .numbers n m

/-- Operands that are the same when blanked are of the same kinds, one by one. -/
lemma SameKind.forall_of_blanked {g : Number → Number} {vs ws : List Value}
    (hv : ∀ v ∈ vs, Operand v) (hw : ∀ w ∈ ws, Operand w)
    (e : vs.map (Value.blanked g) = ws.map (Value.blanked g)) : List.Forall₂ SameKind vs ws := by
  induction vs generalizing ws with
  | nil =>
    cases ws with
    | nil => exact .nil
    | cons w ws => cases e
  | cons v vs ih =>
    cases ws with
    | nil => cases e
    | cons w ws =>
      obtain ⟨e, es⟩ := List.cons.inj e
      obtain ⟨hv, hvs⟩ := List.forall_mem_cons.mp hv
      obtain ⟨hw, hws⟩ := List.forall_mem_cons.mp hw
      exact .cons (.of_blanked hv hw e) (ih hvs hws es)

/-- A placeholder looks at the kind of its value only. -/
lemma Sql.Dialect.placeholder_blanked {g : Number → Number} (d : Dialect) (n : Nat) (v : Value) :
    d.placeholder n (v.blanked g) = d.placeholder n v := by
  cases d <;> cases v <;> rfl

/-- A filling that takes no notice of a replacement fills both templates alike. -/
lemma Sql.Template.fillFrom_mapGap {fill : Nat → Value → String} {f : Value → Value}
    (h : ∀ n v, fill n (f v) = fill n v) (n : Nat) (t : Template) :
    Template.fillFrom fill n (t.map (Piece.mapGap f)) = t.fillFrom fill n := by
  induction t generalizing n with
  | nil => rfl
  | cons p t ih => cases p <;> simp [Template.fillFrom, Piece.mapGap, ih, h]

/-- Statements that are equal once blanked have the same parameterized text. -/
lemma Sql.Query.parameterized_congr {g : Number → Number} {q q' : Query} (d : Dialect)
    (e : q.mapLiterals (Value.blanked g) = q'.mapLiterals (Value.blanked g)) :
    (q'.render d .parameterized).sql = (q.render d .parameterized).sql := by
  have h (q : Query) : ((q.mapLiterals (Value.blanked g)).template d).fillFrom d.placeholder 0 =
      (q.template d).fillFrom d.placeholder 0 := by
    rw [q.template_mapLiterals, Template.fillFrom_mapGap d.placeholder_blanked]
  rw [q.render_parameterized, q'.render_parameterized, ← h q, ← h q', e]

/--
Two requests that agree off their values, one of them valid, have the same parameterized text and
leave out the same filters.  Their bound values are as many, and each two of the same kind.
-/
theorem Request.parameterized_independent (d : Dialect) {r r' : Request}
    (valid : r.validate = .ok ()) (agree : r.withoutValues = r'.withoutValues) :
    ∃ s s', r.compileParameterized d = .ok s ∧ r'.compileParameterized d = .ok s' ∧
      s'.sql = s.sql ∧ s'.ignoredFilters = s.ignoredFilters ∧
      List.Forall₂ SameKind s.params s'.params := by
  unfold withoutValues at agree
  obtain ⟨_, w, hw⟩ := validate_inv valid
  have hp := plan_of_valid valid hw
  have hp' := plan_congr agree valid hw
  have e := query_congr agree w
  refine ⟨_, _, compile_of_plan hp d _, compile_of_plan hp' d _, ?_, rfl, ?_⟩
  · exact Query.parameterized_congr d e
  · have el := congrArg Query.literals e
    rw [Query.literals_mapLiterals, Query.literals_mapLiterals] at el
    have h := SameKind.forall_of_blanked (fun _ => literals_query) (fun _ => literals_query) el
    simpa only [Plan.statement, Query.render_parameterized] using h

/-- Medals of two countries, for hostile texts and other ages. -/
theorem Request.parameterized_independent_medals :
    (medals "USA" "Phelps" 20 30).validate = .ok () ∧
    (medals "USA" "Phelps" 20 30).withoutValues =
      (medals "' or '1'='1" "%\\\" --" (-1) 0).withoutValues ∧
    ∃ s s', (medals "USA" "Phelps" 20 30).compileParameterized .postgres = .ok s ∧
      (medals "' or '1'='1" "%\\\" --" (-1) 0).compileParameterized .postgres = .ok s' ∧
      s'.sql = s.sql ∧ s'.ignoredFilters = s.ignoredFilters ∧
      List.Forall₂ SameKind s.params s'.params :=
  ⟨rfl, rfl, parameterized_independent .postgres rfl rfl⟩

end GridRows
