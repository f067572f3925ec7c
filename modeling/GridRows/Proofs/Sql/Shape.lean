import GridRows.Proofs.Sql.Reading

/-!
# Statement shapes

The shape of a statement is what all dialects share of it: its texts, the places of its values, and
the ends of the expressions that are compared as text.  A dialect only adds the spelling of these
ends (`Query.template_shape`), and a statement with nothing compared as text has the template of the
other's shape with its casts left out (`Query.template_withoutCasts`).

The main statement is `Query.dialects_share_shape`, which compares the three dialects in both modes.
Its parts are read off `Query.render_shape` and `Query.render_withoutCasts`.
-/

namespace GridRows.Sql

open Json (Value)

/-- A part of a shape. -/
inductive Mark where
  | text (s : String)
  /-- The place of a value. -/
  | value (v : Value)
  /-- The end of an expression that is compared as text. -/
  | cast

/-- A statement as far as no dialect has a say in it. -/
abbrev Shape := List Mark

namespace Shape

/-- The shapes one after the other, with the same text between each two. -/
def joined (separator : String) : List Shape → Shape
  | [] => []
  | [s] => s
  | s :: ss => s ++ .text separator :: joined separator ss

/-- A clause: a keyword before the joined parts, or nothing if there are none. -/
def clause (keyword separator : String) (ss : List Shape) : Shape :=
  if ss.isEmpty then [] else .text keyword :: joined separator ss

end Shape

/-- The shape of an expression; what is compared as text has a cast directly after it. -/
def Expr.shape : Expr → Shape
  | .column name => [.text name]
  | .literal v => [.value v]
  | .binary op left right => left.shape ++ .text (" " ++ op.spelling ++ " ") :: right.shape
  | .nested inner => .text "(" :: inner.shape ++ [.text ")"]
  | .aggregate function inner => .text (function ++ "(") :: inner.shape ++ [.text ")"]
  | .asText inner => inner.shape ++ [.cast]
  | .always => [.text "true"]

/-- The shape of a selected item. -/
def SelectItem.shape (i : SelectItem) : Shape :=
  match i.label with
  | some name => i.expr.shape ++ [.text (" as " ++ name)]
  | none => i.expr.shape

/-- The shape of what is selected. -/
def selectShape (items : List SelectItem) : Shape :=
  if items.isEmpty then [.text " select *"]
  else Shape.clause " select " ", " (items.map (·.shape))

/-- The shape of a statement, clause by clause. -/
def Query.shape (q : Query) : Shape :=
  selectShape q.select ++
  .text (" FROM " ++ q.table) ::
  Shape.clause " where " " and " (q.filters.map (·.shape)) ++
  Shape.clause " group by " ", " (q.groupBy.map (·.shape)) ++
  Shape.clause " order by " ", " (q.orderBy.map fun i => [.text (sortText i)]) ++
  [.text (countText " limit " q.limit), .text (countText " offset " q.offset)]

/-! ## Templates of shapes -/

/-- The pieces for a mark, with the given ones for a cast. -/
def Mark.pieces (cast : Template) : Mark → Template
  | .text s => [.text s]
  | .value v => [.gap v]
  | .cast => cast

/-- The template of a shape, with the given pieces for each cast. -/
def Shape.template (cast : Template) (s : Shape) : Template := s.flatMap (·.pieces cast)

section Template

variable {cast : Template}

/-- The template of shapes one after the other is that of each. -/
@[simp] lemma Shape.template_append (s t : Shape) :
    Shape.template cast (s ++ t) = Shape.template cast s ++ Shape.template cast t :=
  List.flatMap_append

/-- A text stays a text. -/
@[simp] lemma Shape.template_text (text : String) (s : Shape) :
    Shape.template cast (.text text :: s) = .text text :: Shape.template cast s :=
  rfl

/-- Joined shapes have the joined templates. -/
lemma Shape.template_joined (separator : String) (ss : List Shape) :
    Shape.template cast (Shape.joined separator ss) =
      Template.joined separator (ss.map (Shape.template cast)) := by
  induction ss with
  | nil => rfl
  | cons s ss ih =>
    cases ss with
    | nil => rfl
    | cons t ss =>
      have e : Shape.joined separator (s :: t :: ss) =
          s ++ .text separator :: Shape.joined separator (t :: ss) := rfl
      rw [e, Shape.template_append, Shape.template_text, ih]
      rfl

/-- The shape of a clause has the template of the clause. -/
lemma Shape.template_clause (keyword separator : String) (ss : List Shape) :
    Shape.template cast (Shape.clause keyword separator ss) =
      Template.clause keyword separator (ss.map (Shape.template cast)) := by
  cases ss with
  | nil => rfl
  | cons s ss =>
    exact congrArg (Piece.text keyword :: ·) (Shape.template_joined separator (s :: ss))

end Template

/-- A statement with all its expressions replaced. -/
def Query.mapExprs (f : Expr → Expr) (q : Query) : Query :=
  { q with
    select := q.select.map fun i => { i with expr := f i.expr }
    filters := q.filters.map f
    groupBy := q.groupBy.map f }

/-- What holds of the templates of expressions holds of those of statements. -/
lemma Query.template_mapExprs {d : Dialect} {cast : Template} {f : Expr → Expr}
    (h : ∀ e : Expr, (f e).template d = Shape.template cast e.shape) (q : Query) :
    (q.mapExprs f).template d = Shape.template cast q.shape := by
  have hitem (i : SelectItem) :
      SelectItem.template d { i with expr := f i.expr } = Shape.template cast i.shape := by
    unfold SelectItem.template SelectItem.shape
    cases i.label with
    | none => exact h i.expr
    | some name =>
      simp only [h, Shape.template_append]
      rfl
  have hselect :
      selectTemplate d (q.select.map fun i => { i with expr := f i.expr }) =
        Shape.template cast (selectShape q.select) := by
    unfold selectTemplate selectShape
    cases q.select with
    | nil => rfl
    | cons i items =>
      rw [if_neg nofun, if_neg nofun, Shape.template_clause, List.map_map, List.map_map]
      exact congrArg (Template.clause _ _) (List.map_congr_left fun i _ => hitem i)
  have hexprs (es : List Expr) :
      (es.map f).map (·.template d) = (es.map (·.shape)).map (Shape.template cast) := by
    rw [List.map_map, List.map_map]
    exact List.map_congr_left fun e _ => h e
  have hsorts (items : List SortItem) :
      items.map (fun i => [Piece.text (sortText i)]) =
        (items.map fun i => [Mark.text (sortText i)]).map (Shape.template cast) := by
    rw [List.map_map]
    rfl
  -- clause by clause, the same templates now stand on both sides
  unfold template shape mapExprs
  simp only [hselect, hexprs, hsorts, Shape.template_append, Shape.template_text,
    Shape.template_clause]
  rfl

/-- A dialect writes the shape of an expression with its own casts. -/
lemma Expr.template_shape (d : Dialect) (e : Expr) :
    e.template d = Shape.template [.text d.castSuffix] e.shape := by
  induction e with
  | column name => rfl
  | literal v => rfl
  | binary op left right ihl ihr =>
    rw [template, ihl, ihr, shape, Shape.template_append]
    rfl
  | nested inner ih =>
    rw [template, ih, shape, Shape.template_append]
    rfl
  | aggregate function inner ih =>
    rw [template, ih, shape, Shape.template_append]
    rfl
  | asText inner ih =>
    rw [template, ih, shape, Shape.template_append]
    rfl
  | always => rfl

/-- Without its casts an expression has the template of its shape without casts. -/
lemma Expr.template_withoutCasts (d : Dialect) (e : Expr) :
    e.withoutCasts.template d = Shape.template [] e.shape := by
  induction e with
  | column name => rfl
  | literal v => rfl
  | binary op left right ihl ihr =>
    rw [withoutCasts, template, ihl, ihr, shape, Shape.template_append]
    rfl
  | nested inner ih =>
    rw [withoutCasts, template, ih, shape, Shape.template_append]
    rfl
  | aggregate function inner ih =>
    rw [withoutCasts, template, ih, shape, Shape.template_append]
    rfl
  | asText inner ih =>
    rw [withoutCasts, ih, shape, Shape.template_append]
    exact (List.append_nil _).symm
  | always => rfl

/-- A dialect adds nothing to a shape but the spelling of its casts. -/
lemma Query.template_shape (d : Dialect) (q : Query) :
    q.template d = Shape.template [.text d.castSuffix] q.shape := by
  have e : q.mapExprs id = q := by
    simp [mapExprs]
  rw [← q.template_mapExprs (f := id) (Expr.template_shape d), e]

/-- With nothing compared as text, there is no cast to spell. -/
lemma Query.template_withoutCasts (d : Dialect) (q : Query) :
    q.withoutCasts.template d = Shape.template [] q.shape :=
  q.template_mapExprs (Expr.template_withoutCasts d)

/-! ## Filled shapes -/

/-- The text of a shape: its casts spelled in one way, its places filled from left to right. -/
def Shape.text (cast : String) (fill : Nat → Value → String) (s : Shape) : String :=
  (Shape.template [.text cast] s).fillFrom fill 0

/-- Casts that are spelled as nothing might as well be left out. -/
lemma Shape.fillFrom_template_nil {fill n} (s : Shape) :
    (Shape.template [] s).fillFrom fill n = (Shape.template [.text ""] s).fillFrom fill n := by
  induction s generalizing n with
  | nil => rfl
  | cons m s ih =>
    cases m with
    | text t => exact congrArg (t ++ ·) ih
    | value v => exact congrArg (fill n v ++ ·) ih
    | cast => exact ih.trans String.empty_append.symm

/-- Rendering fills the shape of a statement and spells its casts. -/
lemma Query.render_shape (d : Dialect) (mode : RenderMode) (q : Query) :
    q.render d mode = ⟨q.shape.text d.castSuffix (mode.filling d), mode.kept q.literals⟩ := by
  rw [q.render_eq d mode, q.template_shape d]
  rfl

/-- Leaving out casts changes no value. -/
lemma Query.literals_withoutCasts (q : Query) : q.withoutCasts.literals = q.literals := by
  have hexpr (e : Expr) : e.withoutCasts.literals = e.literals := by
    induction e with
    | binary op left right ihl ihr =>
      rw [Expr.withoutCasts, Expr.literals, ihl, ihr, Expr.literals]
    | nested inner ih => exact ih
    | aggregate function inner ih => exact ih
    | asText inner ih => exact ih
    | column | literal | always => rfl
  simp only [literals, withoutCasts, List.flatMap_map, hexpr]

/-- With nothing compared as text, rendering fills the shape whose casts are spelled as nothing. -/
lemma Query.render_withoutCasts (d : Dialect) (mode : RenderMode) (q : Query) :
    q.withoutCasts.render d mode = ⟨q.shape.text "" (mode.filling d), mode.kept q.literals⟩ := by
  rw [q.withoutCasts.render_eq d mode, q.template_withoutCasts d, q.literals_withoutCasts,
    Shape.fillFrom_template_nil]
  rfl

/-- Without casts there are only fragments and what stands between them. -/
lemma Query.text_eq_woven (q : Query) (fill : Nat → Value → String) :
    q.shape.text "" fill =
      Template.woven (q.template .duckdb).fragments (q.literals.mapIdx fill) := by
  unfold Shape.text
  rw [← q.values_template .duckdb, q.template_shape .duckdb, Template.fillFrom_eq_woven]
  simp only [Nat.zero_add]
  rfl

/-! ## Statements without casts -/

/-- Nothing in the expression is compared as text. -/
def Expr.isCastFree : Expr → Bool
  | .binary _ left right => left.isCastFree && right.isCastFree
  | .nested inner => inner.isCastFree
  | .aggregate _ inner => inner.isCastFree
  | .asText _ => false
  | .column _ | .literal _ | .always => true

/-- Whether nothing in a statement is compared as text. -/
def Query.isCastFree (q : Query) : Bool :=
  q.select.all (·.expr.isCastFree) && q.filters.all (·.isCastFree) && q.groupBy.all (·.isCastFree)

/-- Nothing is left out of an expression without casts. -/
lemma Expr.withoutCasts_of_isCastFree {e : Expr} (h : e.isCastFree) : e.withoutCasts = e := by
  induction e with
  | binary op left right ihl ihr =>
    have ⟨hl, hr⟩ := Bool.and_eq_true_iff.mp h
    rw [withoutCasts, ihl hl, ihr hr]
  | nested inner ih => rw [withoutCasts, ih h]
  | aggregate function inner ih => rw [withoutCasts, ih h]
  | asText inner ih => cases h
  | column | literal | always => rfl

/-- Nothing is left out of a statement without casts. -/
lemma Query.withoutCasts_of_isCastFree {q : Query} (h : q.isCastFree) : q.withoutCasts = q := by
  have ⟨h, hgroups⟩ := Bool.and_eq_true_iff.mp h
  have ⟨hselect, hfilters⟩ := Bool.and_eq_true_iff.mp h
  have hexprs {es : List Expr} (h : es.all (·.isCastFree)) : es.map (·.withoutCasts) = es :=
    (List.map_congr_left fun e he =>
      Expr.withoutCasts_of_isCastFree (List.all_eq_true.mp h e he)).trans (List.map_id _)
  have hitems {items : List SelectItem} (h : items.all (·.expr.isCastFree)) :
      items.map (fun i => { i with expr := i.expr.withoutCasts }) = items := by
    refine (List.map_congr_left fun i hi => ?_).trans (List.map_id _)
    rw [Expr.withoutCasts_of_isCastFree (List.all_eq_true.mp h i hi)]
    rfl
  rw [withoutCasts, hitems hselect, hexprs hfilters, hexprs hgroups]

/-- With nothing compared as text, the spelling of casts does not matter. -/
lemma Query.text_of_isCastFree {q : Query} (h : q.isCastFree) (fill : Nat → Value → String) :
    q.shape.text "::text" fill = q.shape.text "" fill := by
  have e : Shape.template [.text "::text"] q.shape = Shape.template [] q.shape := by
    rw [← q.template_withoutCasts .postgres, withoutCasts_of_isCastFree h,
      q.template_shape .postgres]
    rfl
  unfold Shape.text
  rw [e, Shape.fillFrom_template_nil]

/-! ## Dialects against each other -/

mutual

/-- PostgreSQL writes values as DuckDB does. -/
lemma Dialect.literal_postgres (v : Value) :
    Dialect.postgres.literal v = Dialect.duckdb.literal v :=
  match v with
  | .array items => congrArg listed (Dialect.literals_postgres items)
  | .null | .boolean _ | .number _ | .string _ | .object _ => rfl

/-- PostgreSQL writes lists of values as DuckDB does. -/
lemma Dialect.literals_postgres (vs : List Value) :
    Dialect.postgres.literals vs = Dialect.duckdb.literals vs :=
  match vs with
  | [] => rfl
  | v :: vs => by
    rw [literals, literals, Dialect.literal_postgres v, Dialect.literals_postgres vs]

end

/-- The type to which PostgreSQL pins a bound value, as it is written after its placeholder. -/
def typeSuffix : Value → String
  | .number _ => "::float8"
  | .string _ => "::text"
  | _ => ""

/-- A placeholder of PostgreSQL is its number with the suffix of the value's type. -/
lemma Dialect.placeholder_eq (i : Nat) (v : Value) :
    Dialect.postgres.placeholder i v = "$" ++ toString (i + 1) ++ typeSuffix v := by
  cases v with
  | number | string => rfl
  | null | boolean | array | object => exact String.append_empty.symm

/--
All dialects write statements of one shape.  They bind the same values, MySQL and DuckDB in the same
text, and neither of the two shows what is compared as text.  Where nothing is, PostgreSQL differs
from DuckDB only by the marks of its placeholders, and with literals in the text not at all.
Elsewhere it differs further by `::text` at the end of what is compared as text.
-/
theorem Query.dialects_share_shape (q : Query) :
    (∀ d, (q.render d .parameterized).params = q.literals) ∧
    (q.render .mysql .parameterized).sql = (q.render .duckdb .parameterized).sql ∧
    (∀ d mode, d ≠ .postgres → q.withoutCasts.render d mode = q.render d mode) ∧
    (q.isCastFree →
      (q.render .postgres .inline).sql = (q.render .duckdb .inline).sql ∧
      ∃ fragments : List String,
        fragments.length = q.literals.length + 1 ∧
        (q.render .duckdb .parameterized).sql =
          Template.woven fragments (q.literals.map fun _ => "?") ∧
        (q.render .postgres .parameterized).sql =
          Template.woven fragments
            (q.literals.mapIdx fun i v => "$" ++ toString (i + 1) ++ typeSuffix v)) ∧
    (q.render .duckdb .inline).sql = q.shape.text "" (fun _ v => Dialect.duckdb.literal v) ∧
    (q.render .postgres .inline).sql =
      q.shape.text "::text" (fun _ v => Dialect.duckdb.literal v) ∧
    (q.render .duckdb .parameterized).sql = q.shape.text "" (fun _ _ => "?") ∧
    (q.render .postgres .parameterized).sql =
      q.shape.text "::text" (fun i v => "$" ++ toString (i + 1) ++ typeSuffix v) := by
  -- each text is that of the shape, with the casts and the fillings of its dialect
  have hinline : (q.render .postgres .inline).sql =
      q.shape.text "::text" (fun _ v => Dialect.duckdb.literal v) := by
    have e : Dialect.postgres.literal = Dialect.duckdb.literal := funext Dialect.literal_postgres
    rw [q.render_shape, ← e]
    rfl
  have hparam : (q.render .postgres .parameterized).sql =
      q.shape.text "::text" (fun i v => "$" ++ toString (i + 1) ++ typeSuffix v) := by
    have e : Dialect.postgres.placeholder =
        fun i v => "$" ++ toString (i + 1) ++ typeSuffix v :=
      funext fun i => funext fun v => Dialect.placeholder_eq i v
    rw [q.render_shape, ← e]
    rfl
  have hduck : (q.render .duckdb .parameterized).sql = q.shape.text "" (fun _ _ => "?") := by
    rw [q.render_shape]
    rfl
  have hliteral : (q.render .duckdb .inline).sql =
      q.shape.text "" (fun _ v => Dialect.duckdb.literal v) := by
    rw [q.render_shape]
    rfl
  refine ⟨?params, ?mysql, ?casts, fun h => ?castFree, hliteral, hinline, hduck, hparam⟩
  case params =>
    intro d
    rw [q.render_shape]
    rfl
  case mysql =>
    rw [q.render_shape, q.render_shape]
    rfl
  case casts =>
    intro d mode hd
    rw [q.render_withoutCasts, q.render_shape]
    cases d with
    | mysql | duckdb => rfl
    | postgres => exact absurd rfl hd
  case castFree =>
    have hmarks : (q.literals.mapIdx fun _ _ => "?") = q.literals.map fun _ => "?" :=
      List.mapIdx_eq_iff.mpr fun i => List.getElem?_map
    refine ⟨?_, (q.template .duckdb).fragments, ?_, ?_, ?_⟩
    · rw [hinline, text_of_isCastFree h, hliteral]
    · rw [Template.length_fragments, q.values_template]
    · rw [hduck, text_eq_woven, hmarks]
    · rw [hparam, text_of_isCastFree h, text_eq_woven]

/-- The athletes of a country whose age is in a range and whose team is known. -/
def Query.athletes (country : String) (low high : Int64) : Query where
  select := [⟨.column "athlete", some "name"⟩]
  table := "olympics"
  filters := [
    .binary .eq (.column "country") (.literal (.string country)),
    .nested (.binary .and (.binary .gte (.column "age") (.literal (.number (.ofInt64 low))))
      (.binary .lte (.column "age") (.literal (.number (.ofInt64 high))))),
    .binary .neq (.column "team") (.literal .null)]
  groupBy := []
  orderBy := [⟨"age", .desc⟩]
  limit := some 11
  offset := some 0

/-- Text for text the statement for athletes is the same but for its four placeholders. -/
theorem Query.dialects_share_shape_athletes :
    let q := Query.athletes "Ghana" 20 30
    q.isCastFree = true ∧
    q.withoutCasts.render .mysql .inline = q.render .mysql .inline ∧
    ∃ fragments : List String,
      fragments.length = 5 ∧
      (q.render .duckdb .parameterized).sql = Template.woven fragments ["?", "?", "?", "?"] ∧
      (q.render .postgres .parameterized).sql =
        Template.woven fragments ["$1::text", "$2::float8", "$3::float8", "$4"] := by
  obtain ⟨-, -, hcasts, hfree, -⟩ := Query.dialects_share_shape (Query.athletes "Ghana" 20 30)
  obtain ⟨-, fragments, hl, hduck, hpg⟩ := hfree rfl
  exact ⟨rfl, hcasts .mysql .inline nofun, fragments, hl, hduck, hpg⟩

end GridRows.Sql
