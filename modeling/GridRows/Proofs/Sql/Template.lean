import GridRows.Sql.Render
import Mathlib.Tactic.Lemma

/-!
# Statement templates

The text of a statement with a gap for each of its values.  A template knows neither the render mode
nor the places of its gaps: `Query.write_writes` says that writing a statement, in either mode and after
any number of bound values, fills the gaps of one template from left to right.  The induction is on
the values bound so far, which `Writes` keeps arbitrary.

The main statement is `Query.render_shares_fragments`: the two modes put placeholders and literals
between the same fragments.
-/

namespace GridRows.Sql

open Json (Value)

/-- A piece of a template: text as it stands, or the gap for a value. -/
inductive Piece where
  | text (s : String)
  | gap (value : Value)

/-- The text of a statement with gaps for its values. -/
abbrev Template := List Piece

namespace Template

/-- The values of the gaps, in order. -/
def values : Template → List Value
  | [] => []
  | .text _ :: t => values t
  | .gap v :: t => v :: values t

/-- The text with each gap filled by what `fill` makes of its place and value; `n` gaps go before. -/
def fillFrom (fill : Nat → Value → String) (n : Nat) : Template → String
  | [] => ""
  | .text s :: t => s ++ fillFrom fill n t
  | .gap v :: t => fill n v ++ fillFrom fill (n + 1) t

/-- The templates one after the other, with the same text between each two. -/
def joined (separator : String) : List Template → Template
  | [] => []
  | [t] => t
  | t :: ts => t ++ .text separator :: joined separator ts

/-- A clause: a keyword before the joined parts, or nothing if there are none. -/
def clause (keyword separator : String) (ts : List Template) : Template :=
  if ts.isEmpty then [] else .text keyword :: joined separator ts

/-- The values of templates one after the other are those of each. -/
@[simp] lemma values_append (t u : Template) : (t ++ u).values = t.values ++ u.values := by
  induction t with
  | nil => rfl
  | cons p t ih => cases p <;> simp [values, ih]

/-- Filling goes from left to right. -/
lemma fillFrom_append {fill n} (t u : Template) :
    (t ++ u).fillFrom fill n = t.fillFrom fill n ++ u.fillFrom fill (n + t.values.length) := by
  induction t generalizing n with
  | nil => simp [fillFrom, values]
  | cons p t ih =>
    cases p with
    | text s => simp [fillFrom, values, ih, String.append_assoc]
    | gap v =>
      rw [List.cons_append, fillFrom, fillFrom, ih, String.append_assoc, values, List.length_cons]
      -- what is left is the place at which the second template begins
      congr 3
      omega

/-- Places do not matter to a filling that does not look at them. -/
lemma fillFrom_place {fill : Value → String} {n m} (t : Template) :
    t.fillFrom (fun _ => fill) n = t.fillFrom (fun _ => fill) m := by
  induction t generalizing n m with
  | nil => rfl
  | cons p t ih =>
    cases p with
    | text s => rw [fillFrom, fillFrom, ih]
    | gap v => rw [fillFrom, fillFrom, ih]

/-! ### Fragments -/

/-- The texts between the gaps, with those before the first and after the last. -/
def fragments : Template → List String
  | [] => [""]
  | .text s :: t =>
    match fragments t with
    | [] => [s]
    | f :: fs => (s ++ f) :: fs
  | .gap _ :: t => "" :: fragments t

/-- Fragments and fillings in turn; there is one fragment more than fillings. -/
def woven : List String → List String → String
  | [], _ => ""
  | f :: _, [] => f
  | f :: fs, v :: vs => f ++ v ++ woven fs vs

/-- A gap stands between each two fragments. -/
lemma length_fragments (t : Template) : t.fragments.length = t.values.length + 1 := by
  induction t with
  | nil => rfl
  | cons p t ih =>
    cases p with
    | gap v => simp [fragments, values, ih]
    | text s =>
      unfold fragments values
      rw [← ih]
      cases e : fragments t with
      | nil => rw [e] at ih; cases ih
      | cons f fs => rfl

/-- A text before the first fragment comes before everything. -/
lemma woven_append (s f : String) (fs vs : List String) :
    woven ((s ++ f) :: fs) vs = s ++ woven (f :: fs) vs := by
  cases vs with
  | nil => rfl
  | cons v vs => simp [woven, String.append_assoc]

/-- A filled template is its fragments with the fillings between them. -/
lemma fillFrom_eq_woven {fill n} (t : Template) :
    t.fillFrom fill n = woven t.fragments (t.values.mapIdx fun i => fill (n + i)) := by
  induction t generalizing n with
  | nil => rfl
  | cons p t ih =>
    cases p with
    | gap v =>
      have e : (fun i => fill (n + 1 + i)) = fun i => fill (n + (i + 1)) := by
        funext i
        rw [show n + 1 + i = n + (i + 1) from by omega]
      rw [fillFrom, fragments, values, List.mapIdx_cons, woven, ih, e]
      simp only [Nat.add_zero, String.empty_append]
    | text s =>
      have hl := length_fragments t
      unfold fillFrom fragments values
      rw [ih]
      cases e : fragments t with
      | nil => rw [e] at hl; cases hl
      | cons f fs => rw [woven_append]

end Template

/-! ## The templates of statements -/

/-- The template of an expression. -/
def Expr.template (d : Dialect) : Expr → Template
  | .column name => [.text name]
  | .literal v => [.gap v]
  | .binary op left right =>
    left.template d ++ .text (" " ++ op.spelling ++ " ") :: right.template d
  | .nested inner => .text "(" :: inner.template d ++ [.text ")"]
  | .aggregate function inner => .text (function ++ "(") :: inner.template d ++ [.text ")"]
  | .asText inner => inner.template d ++ [.text d.castSuffix]
  | .always => [.text "true"]

/-- The template of a selected expression. -/
def SelectItem.template (d : Dialect) (i : SelectItem) : Template :=
  match i.label with
  | some name => i.expr.template d ++ [.text (" as " ++ name)]
  | none => i.expr.template d

/-- The template of what is selected. -/
def selectTemplate (d : Dialect) (items : List SelectItem) : Template :=
  if items.isEmpty then [.text " select *"]
  else Template.clause " select " ", " (items.map (·.template d))

/-- The template of a statement: its clauses in fixed order, each with a blank before it. -/
def Query.template (d : Dialect) (q : Query) : Template :=
  selectTemplate d q.select ++
  .text (" FROM " ++ q.table) ::
  Template.clause " where " " and " (q.filters.map (·.template d)) ++
  Template.clause " group by " ", " (q.groupBy.map (·.template d)) ++
  Template.clause " order by " ", " (q.orderBy.map fun i => [.text (sortText i)]) ++
  [.text (countText " limit " q.limit), .text (countText " offset " q.offset)]

/-! ## Writing fills a template -/

/-- What a mode puts in the gap of a value. -/
def RenderMode.filling (d : Dialect) : RenderMode → Nat → Value → String
  | .inline => fun _ v => d.literal v
  | .parameterized => d.placeholder

/-- The values that a mode binds. -/
def RenderMode.kept : RenderMode → List Value → List Value
  | .inline, _ => []
  | .parameterized, vs => vs

/-- Nothing is bound of no values. -/
lemma RenderMode.kept_nil {mode : RenderMode} : mode.kept [] = [] := by cases mode <;> rfl

/-- What is bound of values one after the other is what is bound of each. -/
lemma RenderMode.kept_append {mode : RenderMode} (vs ws : List Value) :
    mode.kept (vs ++ ws) = mode.kept vs ++ mode.kept ws := by
  cases mode <;> rfl

/-- Gaps are counted by the values before them, whether these are bound or not. -/
lemma Template.fillFrom_kept {d mode n} (vs : List Value) (t : Template) :
    t.fillFrom (RenderMode.filling d mode) (n + (mode.kept vs).length) =
      t.fillFrom (RenderMode.filling d mode) (n + vs.length) := by
  cases mode with
  | inline => exact t.fillFrom_place
  | parameterized => rfl

/-- The writer fills the template, whatever is bound before, and binds its values. -/
def Writes (d : Dialect) (mode : RenderMode) (w : Writer String) (t : Template) : Prop :=
  ∀ bound, (w.run bound).run =
    (t.fillFrom (RenderMode.filling d mode) bound.size, bound ++ (mode.kept t.values).toArray)

section Writes

variable {d : Dialect} {mode : RenderMode}

/-- A text alone binds nothing. -/
lemma Writes.text (s : String) : Writes d mode (pure s) [.text s] := by
  intro bound
  simp [Template.fillFrom, Template.values, RenderMode.kept_nil]

/-- A value is one gap. -/
lemma Writes.value (v : Value) : Writes d mode (writeValue d mode v) [.gap v] := by
  intro bound
  cases mode with
  | inline => simp [writeValue, Template.fillFrom, RenderMode.filling, RenderMode.kept]
  | parameterized =>
    simp [writeValue, Template.fillFrom, Template.values, RenderMode.filling, RenderMode.kept]

/-- What is written in turn fills the templates in turn. -/
lemma Writes.append {w x t u} (hw : Writes d mode w t) (hx : Writes d mode x u) :
    Writes d mode (do let a ← w; let b ← x; return a ++ b) (t ++ u) := by
  intro bound
  simp [hw bound, hx _, Template.fillFrom_append, Template.fillFrom_kept, RenderMode.kept_append]

/-- A text put before. -/
lemma Writes.cons {w t} (s : String) (hw : Writes d mode w t) :
    Writes d mode (do let a ← w; return s ++ a) (.text s :: t) := by
  simpa using (Writes.text s).append hw

/-- A text put after. -/
lemma Writes.concat {w t} (hw : Writes d mode w t) (s : String) :
    Writes d mode (do let a ← w; return a ++ s) (t ++ [.text s]) := by
  simpa using hw.append (Writes.text s)

/-- Writing an expression fills its template. -/
lemma Expr.write_writes (e : Expr) : Writes d mode (e.write d mode) (e.template d) := by
  induction e with
  | column name => exact .text name
  | literal v => exact .value v
  | binary op left right ihl ihr =>
    have h := ihl.append (ihr.cons (" " ++ op.spelling ++ " "))
    simpa [Expr.write, Expr.template, String.append_assoc] using h
  | nested inner ih => simpa [Expr.write, Expr.template] using (ih.cons "(").concat ")"
  | aggregate function inner ih =>
    have h := (ih.cons (function ++ "(")).concat ")"
    simpa [Expr.write, Expr.template, Dialect.aggregate] using h
  | asText inner ih => simpa [Expr.write, Expr.template, Dialect.castToText] using ih.concat _
  | always => exact .text "true"

/-- Writing a selected expression fills its template. -/
lemma SelectItem.write_writes (i : SelectItem) : Writes d mode (i.write d mode) (i.template d) := by
  unfold SelectItem.write SelectItem.template
  cases i.label with
  | none => simpa using i.expr.write_writes
  | some name => simpa [String.append_assoc] using i.expr.write_writes.concat (" as " ++ name)

/-- Writing parts with a separator between each two fills the joined templates. -/
lemma Writes.joined {α : Type} {write : α → Writer String} {template : α → Template}
    (separator : String) (h : ∀ a, Writes d mode (write a) (template a)) (a : α) (parts : List α) :
    Writes d mode (do let texts ← (a :: parts).mapM write; return separator.intercalate texts)
      (Template.joined separator ((a :: parts).map template)) := by
  induction parts generalizing a with
  | nil => simpa [Template.joined] using h a
  | cons b parts ih =>
    have hb := (h a).append ((ih b).cons separator)
    simpa [Template.joined, String.intercalate_cons_cons, String.append_assoc] using hb

/-- Writing a clause fills its template. -/
lemma Writes.clause {α : Type} {write : α → Writer String} {template : α → Template}
    (keyword separator : String) (h : ∀ a, Writes d mode (write a) (template a)) (parts : List α) :
    Writes d mode (writeClause keyword separator write parts)
      (Template.clause keyword separator (parts.map template)) := by
  cases parts with
  | nil => intro bound; simp [writeClause, Template.clause, Template.fillFrom, Template.values,
      RenderMode.kept_nil]
  | cons a parts =>
    simpa [writeClause, Template.clause] using (Writes.joined separator h a parts).cons keyword

/-- Writing what is selected fills its template. -/
lemma Writes.select (items : List SelectItem) :
    Writes d mode (writeSelect d mode items) (selectTemplate d items) := by
  unfold writeSelect selectTemplate
  split
  · exact .text _
  · exact .clause _ _ SelectItem.write_writes items

/-- Writing a statement fills its template. -/
lemma Query.write_writes (q : Query) : Writes d mode (q.write d mode) (q.template d) := by
  have hs : Writes d mode (writeSelect d mode q.select) (selectTemplate d q.select) :=
    .select q.select
  have hf : Writes d mode (writeClause " where " " and " (·.write d mode) q.filters)
      (Template.clause " where " " and " (q.filters.map (·.template d))) :=
    .clause _ _ Expr.write_writes q.filters
  have hg : Writes d mode (writeClause " group by " ", " (·.write d mode) q.groupBy)
      (Template.clause " group by " ", " (q.groupBy.map (·.template d))) :=
    .clause _ _ Expr.write_writes q.groupBy
  have ho : Writes d mode (writeClause " order by " ", " (fun i => pure (sortText i)) q.orderBy)
      (Template.clause " order by " ", " (q.orderBy.map fun i => [.text (sortText i)])) :=
    .clause _ _ (fun i => .text (sortText i)) q.orderBy
  have hc : Writes d mode _ _ :=
    (Writes.text (countText " limit " q.limit)).concat (countText " offset " q.offset)
  have h := hs.append ((((hf.append hg).append ho).append hc).cons (" FROM " ++ q.table))
  simpa [Query.write, Query.template, String.append_assoc] using h

end Writes

/-! ## The gaps are the literals -/

/-- The values of an expression are the gaps of its template, in the order of the text. -/
lemma Expr.values_template (d : Dialect) (e : Expr) : (e.template d).values = e.literals := by
  induction e with
  | column name => rfl
  | literal v => rfl
  | binary op left right ihl ihr => simp [template, literals, Template.values, ihl, ihr]
  | nested inner ih => simp [template, literals, Template.values, ih]
  | aggregate function inner ih => simp [template, literals, Template.values, ih]
  | asText inner ih => simp [template, literals, Template.values, ih]
  | always => rfl

/-- The values of a selected item are the gaps of its template. -/
lemma SelectItem.values_template (d : Dialect) (i : SelectItem) :
    (i.template d).values = i.expr.literals := by
  unfold template
  cases i.label with
  | none => exact i.expr.values_template d
  | some name => simp [Template.values, i.expr.values_template d]

/-- Separators hold no gaps. -/
lemma Template.values_joined (separator : String) (ts : List Template) :
    (Template.joined separator ts).values = ts.flatMap values := by
  induction ts with
  | nil => rfl
  | cons t ts ih =>
    cases ts with
    | nil => simp [joined]
    | cons u ts => simpa [joined, values] using ih

/-- The values of a clause are those of its parts. -/
lemma Template.values_clause (keyword separator : String) (ts : List Template) :
    (Template.clause keyword separator ts).values = ts.flatMap values := by
  cases ts with
  | nil => rfl
  | cons t ts => simpa [clause, values] using values_joined separator (t :: ts)

/-- The values of what is selected are those of the items. -/
lemma values_selectTemplate (d : Dialect) (items : List SelectItem) :
    (selectTemplate d items).values = items.flatMap (·.expr.literals) := by
  unfold selectTemplate
  split
  · simp_all [Template.values]
  · simp [Template.values_clause, List.flatMap_map, SelectItem.values_template]

/-- The gaps of a statement hold its literals, in the order of its text. -/
lemma Query.values_template (d : Dialect) (q : Query) : (q.template d).values = q.literals := by
  have ho (items : List SortItem) :
      (items.map fun i => [Piece.text (sortText i)]).flatMap Template.values = [] := by
    simp [List.flatMap_map, Template.values]
  simp [template, literals, values_selectTemplate, ho, Template.values, Template.values_clause,
    List.flatMap_map, Expr.values_template]

/-- Rendering fills the template of a statement and keeps its literals, each as the mode has it. -/
lemma Query.render_eq (d : Dialect) (mode : RenderMode) (q : Query) :
    q.render d mode =
      ⟨(q.template d).fillFrom (mode.filling d) 0, mode.kept q.literals⟩ := by
  have h : Writes d mode (q.write d mode) (q.template d) := q.write_writes
  have h := h #[]
  simp only [Id.run] at h
  rw [render, h, ← q.values_template d]
  simp

/-- An inline statement has its literals written into its template. -/
lemma Query.render_inline (d : Dialect) (q : Query) :
    q.render d .inline = ⟨(q.template d).fillFrom (fun _ v => d.literal v) 0, []⟩ :=
  q.render_eq d .inline

/-- A parameterized statement has placeholders in its template and its literals bound. -/
lemma Query.render_parameterized (d : Dialect) (q : Query) :
    q.render d .parameterized = ⟨(q.template d).fillFrom d.placeholder 0, q.literals⟩ :=
  q.render_eq d .parameterized

/-- An inline statement weaves the literals of its values into the fragments, and binds nothing. -/
lemma Query.render_inline_woven (d : Dialect) (q : Query) :
    q.render d .inline =
      ⟨Template.woven (q.template d).fragments (q.literals.map d.literal), []⟩ := by
  have hplace : q.literals.mapIdx (fun _ v => d.literal v) = q.literals.map d.literal :=
    List.mapIdx_eq_iff.mpr fun i => List.getElem?_map
  rw [render_inline, Template.fillFrom_eq_woven, values_template, hplace]

/-- A parameterized statement weaves placeholders into the fragments, and binds the values. -/
lemma Query.render_parameterized_woven (d : Dialect) (q : Query) :
    q.render d .parameterized =
      ⟨Template.woven (q.template d).fragments (q.literals.mapIdx d.placeholder), q.literals⟩ := by
  rw [render_parameterized, Template.fillFrom_eq_woven, values_template]
  simp

/-- In every mode the text of a statement ends with its limit and its offset. -/
lemma Query.sql_ends (d : Dialect) (mode : RenderMode) {q : Query} {limit offset : Nat}
    (hl : q.limit = some limit) (ho : q.offset = some offset) :
    ∃ head, (q.render d mode).sql =
      head ++ " limit " ++ toString limit ++ " offset " ++ toString offset := by
  rw [q.render_eq d mode]
  unfold template
  rw [hl, ho, Template.fillFrom_append]
  simp [Template.fillFrom, countText, ← String.append_assoc]

/-- PostgreSQL numbers the placeholders from one and says the type of numbers and texts. -/
lemma Dialect.placeholder_postgres (i : Nat) (v : Value) :
    ∃ type ∈ ["", "::float8", "::text"],
      Dialect.postgres.placeholder i v = "$" ++ toString (i + 1) ++ type := by
  cases v with
  | number n => exact ⟨"::float8", by simp, rfl⟩
  | string s => exact ⟨"::text", by simp, rfl⟩
  | _ => exact ⟨"", by simp, String.append_empty.symm⟩

/--
Both modes write the same fragments, one more than there are literals.  Between them stand the
placeholders of the literals, which are bound in this order, or the literals themselves, and then
nothing is bound.
-/
theorem Query.render_shares_fragments (d : Dialect) (q : Query) :
    ∃ fragments : List String,
      fragments.length = q.literals.length + 1 ∧
      q.render d .parameterized =
        ⟨Template.woven fragments (q.literals.mapIdx d.placeholder), q.literals⟩ ∧
      q.render d .inline = ⟨Template.woven fragments (q.literals.map d.literal), []⟩ ∧
      (d = .postgres → ∀ i v, q.literals[i]? = some v →
        ∃ type ∈ ["", "::float8", "::text"],
          d.placeholder i v = "$" ++ toString (i + 1) ++ type) := by
  refine ⟨(q.template d).fragments, ?_, ?_, ?_, ?_⟩
  · rw [Template.length_fragments, q.values_template d]
  · rw [q.render_parameterized d, Template.fillFrom_eq_woven, q.values_template d]
    simp
  · rw [q.render_inline d, Template.fillFrom_eq_woven, q.values_template d]
    have e : q.literals.mapIdx (fun _ v => d.literal v) = q.literals.map d.literal :=
      List.mapIdx_eq_iff.mpr fun i => List.getElem?_map
    rw [e]
  · intro e i v _
    subst e
    exact Dialect.placeholder_postgres i v

end GridRows.Sql
