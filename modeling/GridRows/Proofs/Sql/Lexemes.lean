import GridRows.Proofs.Sql.Lexer
import GridRows.Proofs.Sql.Template

/-!
# Lexemes of statements

The lexemes of a statement, clause by clause, and `Query.lexes`: they are what the lexer finds in the
text of a statement whose names are identifiers.

The proof goes along the template of the statement.  `Lexes` relates a template to lexemes if the lexer
finds them after any number of bound values and before any text that cannot go on with a name.
Templates can be put together if the second one is `Apart`, since it then begins in such a way.
-/

namespace GridRows.Sql

open Json (Value)

/-! ## Lexemes -/

/-- The words of an operator. -/
def BinaryOperator.words : BinaryOperator → List String
  | .notLike => ["not", "like"]
  | op => [op.spelling]

/-- The lexemes of an operator. -/
def BinaryOperator.lexemes (op : BinaryOperator) : List Lexeme := op.words.map .fixed

/-- The lexemes that turn an expression into text. -/
def Dialect.suffixLexemes : Dialect → List Lexeme
  | .postgres => castLexemes "text"
  | _ => []

/-- The lexemes of an expression. -/
def Expr.lexemes (d : Dialect) : Expr → List Lexeme
  | .column name => [.name name]
  | .literal v => .value v :: d.typeLexemes v
  | .binary op left right => left.lexemes d ++ op.lexemes ++ right.lexemes d
  | .nested inner => .fixed "(" :: inner.lexemes d ++ [.fixed ")"]
  | .aggregate function inner => .name function :: .fixed "(" :: inner.lexemes d ++ [.fixed ")"]
  | .asText inner => inner.lexemes d ++ d.suffixLexemes
  | .always => [.fixed "true"]

/-- The lexemes of a selected expression. -/
def SelectItem.lexemes (d : Dialect) (i : SelectItem) : List Lexeme :=
  match i.label with
  | some name => i.expr.lexemes d ++ [.fixed "as", .name name]
  | none => i.expr.lexemes d

/-- The lexemes of a sort item. -/
def sortLexemes (i : SortItem) : List Lexeme := [.name i.column, .fixed i.direction.name]

/-- Parts with a separator between each two. -/
def separated (separator : String) (parts : List (List Lexeme)) : List Lexeme :=
  [.fixed separator].intercalate parts

/-- A single part stands without separators. -/
lemma separated_singleton {separator : String} (part : List Lexeme) :
    separated separator [part] = part :=
  List.intercalate_singleton

/-- Behind the first of several parts stands a separator. -/
lemma separated_cons_cons {separator : String} (part next : List Lexeme)
    (parts : List (List Lexeme)) :
    separated separator (part :: next :: parts) =
      part ++ .fixed separator :: separated separator (next :: parts) := by
  rw [separated, List.intercalate_cons_cons, List.append_assoc]
  rfl

/-- The lexemes of a clause: its keywords before its parts, or nothing if there are none. -/
def clauseLexemes (keywords : List String) (separator : String) (parts : List (List Lexeme)) :
    List Lexeme :=
  if parts.isEmpty then [] else keywords.map .fixed ++ separated separator parts

/-- The lexemes of what is selected. -/
def selectLexemes (d : Dialect) (items : List SelectItem) : List Lexeme :=
  if items.isEmpty then [.fixed "select", .fixed "*"]
  else clauseLexemes ["select"] "," (items.map (·.lexemes d))

/-- The lexemes of a keyword and a count, if there is one. -/
def countLexemes (keyword : String) : Option Nat → List Lexeme
  | some n => [.fixed keyword, .name (toString n)]
  | none => []

/-- The lexemes of a statement. -/
def Query.lexemes (d : Dialect) (q : Query) : List Lexeme :=
  selectLexemes d q.select ++
  .fixed "FROM" :: .name q.table ::
  clauseLexemes ["where"] "and" (q.filters.map (·.lexemes d)) ++
  clauseLexemes ["group", "by"] "," (q.groupBy.map (·.lexemes d)) ++
  clauseLexemes ["order", "by"] "," (q.orderBy.map sortLexemes) ++
  countLexemes "limit" q.limit ++ countLexemes "offset" q.offset

/-! ## Templates and their lexemes -/

/-- The lexer finds the lexemes in a text, whatever follows it. -/
def Spells (s : String) (ls : List Lexeme) : Prop :=
  ∀ bound n rest, lex bound n (s.toList ++ rest) = ls ++ lex bound n rest

/-- A text that joins nothing after it spells the lexemes of its runs. -/
lemma Spells.of_closed {s : String} {ls : List Lexeme} (hc : isClosed s.toList)
    (h : ∀ bound n rs, Sql.lexemes bound n (runs s.toList ++ rs) = ls ++ Sql.lexemes bound n rs) :
    Spells s ls := by
  intro bound n rest
  rw [lex_append hc, h, lex]

/--
The lexer finds the lexemes in a template whose values are bound, whatever is bound beside them and
whatever follows that cannot go on with a name.
-/
def Lexes (d : Dialect) (t : Template) (ls : List Lexeme) : Prop :=
  ∀ bound n rest, Breaks rest → t.values <+: bound.drop n →
    lex bound n ((t.fillFrom d.placeholder n).toList ++ rest) =
      ls ++ lex bound (n + t.values.length) rest

/-- A name before the template cannot go on with it. -/
def Apart (d : Dialect) (t : Template) : Prop :=
  ∀ n rest, Breaks rest → Breaks ((t.fillFrom d.placeholder n).toList ++ rest)

section Lexes

variable {d : Dialect} {t u : Template} {ls ms : List Lexeme} {s : String}

/-- Before nothing a name ends as it would without it. -/
lemma Apart.nil : Apart d [] := fun _ _ h => h

/-- Templates that keep a name before them apart do so one after the other. -/
lemma Apart.append (ht : Apart d t) (hu : Apart d u) : Apart d (t ++ u) := by
  intro n rest hb
  rw [Template.fillFrom_append, String.toList_append, List.append_assoc]
  exact ht _ _ (hu _ _ hb)

/-- A text keeps apart if it begins with a character of no name. -/
lemma Apart.text {c : Char} {cs : List Char} (hs : s.toList = c :: cs) (hc : isWordChar c = false) :
    Apart d (.text s :: t) := by
  intro n rest _ b hb
  obtain rfl : c = b := by simpa [Template.fillFrom, hs] using hb
  exact hc

/-- There are no lexemes in nothing. -/
lemma Lexes.nil : Lexes d [] [] := fun _ _ _ _ _ => rfl

/-- Templates are read one after the other. -/
lemma Lexes.append (ht : Lexes d t ls) (hu : Lexes d u ms) (ha : Apart d u) :
    Lexes d (t ++ u) (ls ++ ms) := by
  rintro bound n rest hb ⟨others, hv⟩
  rw [Template.values_append, List.append_assoc] at hv
  have hvu : u.values <+: bound.drop (n + t.values.length) := by
    rw [← List.drop_drop, ← hv, List.drop_left]
    exact List.prefix_append _ _
  rw [Template.fillFrom_append, String.toList_append, List.append_assoc,
    ht _ _ _ (ha _ _ hb) ⟨_, hv⟩, hu _ _ _ hb hvu, Template.values_append, List.length_append,
    Nat.add_assoc, List.append_assoc]

/-- A text that spells its lexemes may stand before any template. -/
lemma Lexes.cons (hs : Spells s ms) (ht : Lexes d t ls) : Lexes d (.text s :: t) (ms ++ ls) := by
  intro bound n rest hb hv
  rw [Template.fillFrom, String.toList_append, List.append_assoc, hs, ht _ _ _ hb hv,
    List.append_assoc]
  rfl

/-- A text may be cut in two. -/
lemma Lexes.cut {s₁ s₂ : String} (h : Lexes d (.text s₁ :: .text s₂ :: t) ls) :
    Lexes d (.text (s₁ ++ s₂) :: t) ls := by
  intro bound n rest hb hv
  have h := h bound n rest hb hv
  simpa [Template.fillFrom, Template.values, String.append_assoc] using h

/-- A text that ends in a word or in a closed way is one template. -/
lemma Lexes.text (h : ∀ bound n rest, Breaks rest → lex bound n (s.toList ++ rest) =
    ls ++ lex bound n rest) : Lexes d [.text s] ls := by
  intro bound n rest hb _
  rw [Template.fillFrom, Template.fillFrom, String.append_empty]
  exact h bound n rest hb

/-- An identifier is read as a name. -/
lemma Lexes.name (h : isIdentifier s) : Lexes d [.text s] [.name s] :=
  .text fun _ _ _ hb => lex_name h hb

/-- A gap is read as its value. -/
lemma Lexes.gap (v : Value) : Lexes d [.gap v] (.value v :: d.typeLexemes v) := by
  rintro bound n rest hb ⟨others, hv⟩
  have h : bound[n]? = some v := by
    have h0 : (bound.drop n)[0]? = some v := by rw [← hv]; rfl
    rwa [List.getElem?_drop, Nat.add_zero] at h0
  rw [Template.fillFrom, Template.fillFrom, String.append_empty]
  exact lex_placeholder h hb

/-! ### Fixed texts -/

/-- An opening parenthesis is read as itself. -/
lemma spells_open : Spells "(" [.fixed "("] := .of_closed rfl fun _ _ _ => rfl

/-- A closing parenthesis is read as itself. -/
lemma spells_close : Spells ")" [.fixed ")"] := .of_closed rfl fun _ _ _ => rfl

/-- An operator between blanks is read as its words. -/
lemma spells_operator (op : BinaryOperator) : Spells (" " ++ op.spelling ++ " ") op.lexemes := by
  cases op <;> exact .of_closed rfl fun _ _ _ => rfl

/-! ### Expressions -/

/-- An operator keeps the operand before it apart. -/
lemma apart_operator (op : BinaryOperator) : Apart d (.text (" " ++ op.spelling ++ " ") :: t) := by
  apply Apart.text
  · rw [String.append_assoc, String.toList_append]
    rfl
  · rfl

/-- A template in parentheses. -/
lemma Lexes.parens (ht : Lexes d t ls) :
    Lexes d (.text "(" :: t ++ [.text ")"]) (.fixed "(" :: ls ++ [.fixed ")"]) := by
  have hclose : Lexes d [.text ")"] [.fixed ")"] := .cons spells_close .nil
  exact (Lexes.cons spells_open ht).append hclose (.text rfl rfl)

/-- The end of a cast expression is read as the cast of the dialect. -/
lemma Lexes.suffix : Lexes d [.text d.castSuffix] d.suffixLexemes := by
  cases d with
  | postgres =>
    have ht : isIdentifier "text" := by decide
    exact .text fun _ _ _ hb => lex_cast ht hb
  | mysql => exact .text fun _ _ _ _ => rfl
  | duckdb => exact .text fun _ _ _ _ => rfl

/-- The end of a cast expression keeps the name before it apart. -/
lemma apart_suffix : Apart d [.text d.castSuffix] := by
  cases d with
  | postgres => exact .text rfl rfl
  | mysql => exact fun _ _ hb => hb
  | duckdb => exact fun _ _ hb => hb

/-- The lexemes of an expression are found in its template. -/
lemma Expr.lexes {e : Expr} (h : ∀ name ∈ e.names, isIdentifier name) :
    Lexes d (e.template d) (e.lexemes d) := by
  induction e with
  | column name => exact .name (h name (by simp [names]))
  | literal v => exact .gap v
  | binary op left right ihl ihr =>
    have hl := ihl fun name hn => h name (List.mem_append_left _ hn)
    have hr := ihr fun name hn => h name (List.mem_append_right _ hn)
    rw [template, lexemes, List.append_assoc]
    exact hl.append (.cons (spells_operator op) hr) (apart_operator op)
  | nested inner ih => exact (ih h).parens
  | aggregate function inner ih =>
    have hi := ih fun name hn => h name (List.mem_cons_of_mem _ hn)
    have hf : Lexes d [.text function] [.name function] := .name (h function List.mem_cons_self)
    exact Lexes.cut (hf.append hi.parens (.text rfl rfl))
  | asText inner ih => exact (ih h).append .suffix apart_suffix
  | always => exact .text fun _ _ _ hb => lex_append_breaks rfl hb

/-! ### Clauses -/

/-- A selected item is read as its lexemes if its names are identifiers. -/
lemma SelectItem.lexes {i : SelectItem} (h : ∀ name ∈ i.names, isIdentifier name) :
    Lexes d (i.template d) (i.lexemes d) := by
  have he : Lexes d (i.expr.template d) (i.expr.lexemes d) :=
    Expr.lexes fun name hn => h name (List.mem_append_left _ hn)
  unfold template lexemes
  cases hl : i.label with
  | none => exact he
  | some label =>
    have has : Spells " as " [.fixed "as"] := .of_closed rfl fun _ _ _ => rfl
    have hn : Lexes d [.text label] [.name label] :=
      .name (h label (List.mem_append_right _ (by simp [hl])))
    have ha : Apart d [.text (" as " ++ label)] := .text (by rw [String.toList_append]; rfl) rfl
    exact he.append (.cut (.cons has hn)) ha

/-- A sort item is read as its lexemes if its column is an identifier. -/
lemma lexes_sortText {i : SortItem} (h : isIdentifier i.column) :
    Lexes d [.text (sortText i)] (sortLexemes i) := by
  have hblank : Spells " " [] := .of_closed rfl fun _ _ _ => rfl
  have hdir : Lexes d [.text i.direction.name] [.fixed i.direction.name] := by
    cases i.direction <;> exact .text fun _ _ _ hb => lex_append_breaks rfl hb
  have hc : Lexes d [.text i.column] [.name i.column] := .name h
  exact Lexes.cut (Lexes.cut (hc.append (.cons hblank hdir) (.text rfl rfl)))

variable {α : Type} {template : α → Template} {parts : List α} {lexemes : α → List Lexeme}

/-- Parts with a separator between each two. -/
lemma Lexes.joined {separator word : String} {c : Char} {cs : List Char}
    (hs : Spells separator [.fixed word]) (hc : separator.toList = c :: cs)
    (hw : isWordChar c = false) (h : ∀ a ∈ parts, Lexes d (template a) (lexemes a)) :
    Lexes d (Template.joined separator (parts.map template))
      (separated word (parts.map lexemes)) := by
  induction parts with
  | nil => exact .nil
  | cons a parts ih =>
    have ha := h a List.mem_cons_self
    have ih := ih fun b hb => h b (List.mem_cons_of_mem _ hb)
    cases parts with
    -- a part may end in a name, which the separator after it keeps apart
    | nil =>
      rw [List.map_singleton, List.map_singleton, separated_singleton]
      exact ha
    | cons b parts =>
      rw [List.map_cons, List.map_cons, List.map_cons, List.map_cons, separated_cons_cons]
      exact ha.append (.cons hs ih) (.text hc hw)

/-- A clause whose texts begin with blanks or commas. -/
lemma Lexes.clause {keyword separator word : String} {words : List String} {c : Char}
    {cs : List Char} (hk : Spells keyword (words.map .fixed)) (hs : Spells separator [.fixed word])
    (hc : separator.toList = c :: cs) (hw : isWordChar c = false)
    (h : ∀ a ∈ parts, Lexes d (template a) (lexemes a)) :
    Lexes d (Template.clause keyword separator (parts.map template))
      (clauseLexemes words word (parts.map lexemes)) := by
  unfold Template.clause clauseLexemes
  rw [List.isEmpty_map, List.isEmpty_map]
  cases parts.isEmpty with
  | true => exact .nil
  | false => exact .cons hk (.joined hs hc hw h)

/-- A clause keeps apart from a name before it. -/
lemma apart_clause {keyword separator : String} {ts : List Template} {c : Char} {cs : List Char}
    (hk : keyword.toList = c :: cs) (hc : isWordChar c = false) :
    Apart d (Template.clause keyword separator ts) := by
  unfold Template.clause
  cases ts.isEmpty with
  | true => exact .nil
  | false => exact .text hk hc

/-- What is selected is read as its lexemes if its names are identifiers. -/
lemma lexes_select {items : List SelectItem}
    (h : ∀ i ∈ items, ∀ name ∈ i.names, isIdentifier name) :
    Lexes d (selectTemplate d items) (selectLexemes d items) := by
  have hk : Spells " select " (["select"].map .fixed) := .of_closed rfl fun _ _ _ => rfl
  have hs : Spells ", " [.fixed ","] := .of_closed rfl fun _ _ _ => rfl
  have ha : Spells " select *" [.fixed "select", .fixed "*"] := .of_closed rfl fun _ _ _ => rfl
  unfold selectTemplate selectLexemes
  cases items.isEmpty with
  | true => exact .cons ha .nil
  | false => exact .clause hk hs rfl rfl fun i hi => i.lexes (h i hi)

/-- A count behind its keyword is read as its lexemes. -/
lemma lexes_count {keyword word : String} {count : Option Nat} (hk : Spells keyword [.fixed word]) :
    Lexes d [.text (countText keyword count)] (countLexemes word count) := by
  cases count with
  | none => exact .text fun _ _ _ _ => rfl
  | some n => exact .cut (.cons hk (.name (isIdentifier_toString n)))

/-- A count keeps the name before it apart if its keyword begins with no character of a name. -/
lemma apart_count {keyword : String} {count : Option Nat} {c : Char} {cs : List Char}
    (hk : keyword.toList = c :: cs) (hc : isWordChar c = false) :
    Apart d [.text (countText keyword count)] := by
  cases count with
  | none => exact fun _ _ hb => hb
  | some n => exact .text (by rw [countText, String.toList_append, hk]; rfl) hc

/-! ### Statements -/

/-- The lexemes of a statement are found in its template. -/
lemma Query.lexes {q : Query} (h : ∀ name ∈ q.names, isIdentifier name) :
    Lexes d (q.template d) (q.lexemes d) := by
  obtain ⟨ht, hs, hf, hg, ho⟩ := Query.forall_names h
  have hcomma : Spells ", " [.fixed ","] := .of_closed rfl fun _ _ _ => rfl
  have hfilters : Lexes d (Template.clause " where " " and " (q.filters.map (·.template d)))
      (clauseLexemes ["where"] "and" (q.filters.map (·.lexemes d))) :=
    .clause (.of_closed rfl fun _ _ _ => rfl) (.of_closed rfl fun _ _ _ => rfl) rfl rfl
      fun e he => e.lexes (hf e he)
  have hgroups : Lexes d (Template.clause " group by " ", " (q.groupBy.map (·.template d)))
      (clauseLexemes ["group", "by"] "," (q.groupBy.map (·.lexemes d))) :=
    .clause (.of_closed rfl fun _ _ _ => rfl) hcomma rfl rfl fun e he => e.lexes (hg e he)
  have horders : Lexes d
      (Template.clause " order by " ", " (q.orderBy.map fun i => [.text (sortText i)]))
      (clauseLexemes ["order", "by"] "," (q.orderBy.map sortLexemes)) :=
    .clause (.of_closed rfl fun _ _ _ => rfl) hcomma rfl rfl fun i hi => lexes_sortText (ho i hi)
  have hfrom : Spells " FROM " [.fixed "FROM"] := .of_closed rfl fun _ _ _ => rfl
  have htable : Lexes d [.text (" FROM " ++ q.table)] [.fixed "FROM", .name q.table] :=
    .cut (.cons hfrom (.name ht))
  have hlimit : Lexes d [.text (countText " limit " q.limit)] (countLexemes "limit" q.limit) :=
    lexes_count (.of_closed rfl fun _ _ _ => rfl)
  have hoffset : Lexes d [.text (countText " offset " q.offset)] (countLexemes "offset" q.offset) :=
    lexes_count (.of_closed rfl fun _ _ _ => rfl)
  have hall := (((((lexes_select hs).append htable
    (.text (by rw [String.toList_append]; rfl) rfl)).append hfilters (apart_clause rfl rfl)).append
    hgroups (apart_clause rfl rfl)).append horders (apart_clause rfl rfl)).append
    (hlimit.append hoffset (apart_count rfl rfl)) (.append (apart_count rfl rfl) (apart_count rfl rfl))
  simpa [template, lexemes] using hall

end Lexes

/-- The lexer finds the lexemes of a statement in its text. -/
lemma Query.lex_render {d : Dialect} {q : Query} (h : ∀ name ∈ q.names, isIdentifier name) :
    lex (q.render d .parameterized).params 0 (q.render d .parameterized).sql.toList =
      q.lexemes d := by
  have hl : Lexes d (q.template d) (q.lexemes d) := q.lexes h
  have hv : (q.template d).values <+: q.literals.drop 0 := by
    rw [q.values_template d]
    exact List.prefix_rfl
  have hb : Breaks [] := by rintro c ⟨⟩
  have hl := hl q.literals 0 [] hb hv
  rw [q.render_parameterized d]
  simpa [lex, runs, Sql.lexemes] using hl

end GridRows.Sql
