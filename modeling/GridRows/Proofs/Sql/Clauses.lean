import GridRows.Proofs.Sql.Template

/-!
# Statements clause by clause

The text of a statement is the text of its clauses one after the other (`Query.sql_eq`), and the text
of a clause is that of its parts (`Template.fillFrom_clause`).  Only the places of the gaps run on from
one part to the next, and `Template.texts` keeps count of them.
-/

namespace GridRows.Sql

open Json (Value)

/-- A keyword before parts with a separator between each two, or nothing if there are none. -/
def clauseText (keyword separator : String) (parts : List String) : String :=
  if parts.isEmpty then "" else keyword ++ separator.intercalate parts

namespace Template

variable {fill : Nat → Value → String}

/-- The texts of templates that are filled one after the other; `n` gaps go before the first. -/
def texts (fill : Nat → Value → String) (n : Nat) : List Template → List String
  | [] => []
  | t :: ts => t.fillFrom fill n :: texts fill (n + t.values.length) ts

/-- There is one text for each template. -/
lemma length_texts (n : Nat) (ts : List Template) : (texts fill n ts).length = ts.length := by
  induction ts generalizing n with
  | nil => rfl
  | cons t ts ih => rw [texts, List.length_cons, ih, List.length_cons]

/-- A template is filled from the place that the gaps before it leave. -/
lemma texts_getElem? {n i : Nat} {ts : List Template} {t : Template} (h : ts[i]? = some t) :
    (texts fill n ts)[i]? = some (t.fillFrom fill (n + ((ts.take i).flatMap values).length)) := by
  induction ts generalizing n i with
  | nil => cases h
  | cons u ts ih =>
    cases i with
    | zero =>
      cases h
      rfl
    | succ i =>
      rw [List.getElem?_cons_succ] at h
      rw [texts, List.getElem?_cons_succ, ih h, List.take_succ_cons, List.flatMap_cons,
        List.length_append, Nat.add_assoc]

/-- Templates without gaps have their texts wherever they stand. -/
lemma texts_map {α : Type} {template : α → Template} {text : α → String}
    (h : ∀ a n, (template a).fillFrom fill n = text a) (n : Nat) (parts : List α) :
    texts fill n (parts.map template) = parts.map text := by
  induction parts generalizing n with
  | nil => rfl
  | cons a parts ih => rw [List.map_cons, texts, h, ih, List.map_cons]

/-- Joined templates are written as their texts, with the separator between each two. -/
lemma fillFrom_joined (separator : String) (n : Nat) (ts : List Template) :
    (joined separator ts).fillFrom fill n = separator.intercalate (texts fill n ts) := by
  induction ts generalizing n with
  | nil => rfl
  | cons t ts ih =>
    cases ts with
    | nil => simp [joined, texts]
    | cons u ts =>
      have h : joined separator (t :: u :: ts) =
          t ++ .text separator :: joined separator (u :: ts) :=
        rfl
      rw [h, fillFrom_append, fillFrom, ih]
      simp only [texts, String.intercalate_cons_cons, String.append_assoc]

/-- A clause is written as the text of a clause with the texts of its parts. -/
lemma fillFrom_clause (keyword separator : String) (n : Nat) (ts : List Template) :
    (clause keyword separator ts).fillFrom fill n =
      clauseText keyword separator (texts fill n ts) := by
  cases ts with
  | nil => rfl
  | cons t ts =>
    have h : (clause keyword separator (t :: ts)).fillFrom fill n =
        keyword ++ (joined separator (t :: ts)).fillFrom fill n :=
      rfl
    rw [h, fillFrom_joined]
    rfl

end Template

/-- Where something is selected, the items follow the keyword. -/
lemma selectTemplate_cons (d : Dialect) (i : SelectItem) (items : List SelectItem) :
    selectTemplate d (i :: items) =
      Template.clause " select " ", " ((i :: items).map (·.template d)) :=
  rfl

/-- The text of a statement is that of its clauses; `s` and `f` gaps are in what is selected and where. -/
lemma Query.sql_eq (d : Dialect) (mode : RenderMode) (q : Query) :
    let fill := mode.filling d
    let s := (q.select.flatMap (·.expr.literals)).length
    let f := (q.filters.flatMap (·.literals)).length
    (q.render d mode).sql =
      (selectTemplate d q.select).fillFrom fill 0 ++ " FROM " ++ q.table ++
        clauseText " where " " and " (Template.texts fill s (q.filters.map (·.template d))) ++
        clauseText " group by " ", " (Template.texts fill (s + f) (q.groupBy.map (·.template d))) ++
        clauseText " order by " ", " (q.orderBy.map sortText) ++
        countText " limit " q.limit ++ countText " offset " q.offset := by
  intro fill s f
  have ho (n : Nat) :
      Template.texts (mode.filling d) n (q.orderBy.map fun i => [Piece.text (sortText i)]) =
        q.orderBy.map sortText :=
    Template.texts_map (fun i n => by simp [Template.fillFrom]) n q.orderBy
  have hs : (selectTemplate d q.select).values.length = s := by
    rw [values_selectTemplate]
  have hf : (Template.clause " where " " and " (q.filters.map (·.template d))).values.length = f := by
    rw [Template.values_clause, List.flatMap_map]
    simp only [Expr.values_template, f]
  rw [q.render_eq d mode, template]
  simp only [Template.fillFrom_append, Template.fillFrom, Template.fillFrom_clause, ho,
    Template.values_append, Template.values, List.length_append, hs, hf, Nat.zero_add]
  simp only [← String.append_assoc, String.append_empty]
  rfl

end GridRows.Sql
