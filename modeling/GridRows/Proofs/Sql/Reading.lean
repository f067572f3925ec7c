import GridRows.Proofs.Sql.Grammar

/-!
# Reading statements back

`Readable` says which expressions are read back from their texts: comparisons have operands on both
sides, and a conjunction stands in parentheses unless it is that of a clause.  Nothing in the tree of a
statement excludes others; they have the text of another tree.

`Query.parse_render` is the round trip: the parser gets a readable statement back, as far as the
dialect writes it.
-/

namespace GridRows.Sql

open Json (Value)
open Grammar (conjoin)

/-! ## What a dialect writes -/

/-- An expression with nothing turned into text. -/
def Expr.withoutCasts : Expr → Expr
  | .column name => .column name
  | .literal v => .literal v
  | .binary op left right => .binary op left.withoutCasts right.withoutCasts
  | .nested inner => .nested inner.withoutCasts
  | .aggregate function inner => .aggregate function inner.withoutCasts
  | .asText inner => inner.withoutCasts
  | .always => .always

/-- A statement with nothing turned into text. -/
def Query.withoutCasts (q : Query) : Query :=
  { q with
    select := q.select.map fun i => { i with expr := i.expr.withoutCasts }
    filters := q.filters.map (·.withoutCasts)
    groupBy := q.groupBy.map (·.withoutCasts) }

/-- An expression as far as a dialect writes it: only PostgreSQL says what is turned into text. -/
def Expr.visible : Dialect → Expr → Expr
  | .postgres, e => e
  | _, e => e.withoutCasts

/-- A selected expression as far as a dialect writes it. -/
def SelectItem.visible (d : Dialect) (i : SelectItem) : SelectItem := ⟨i.expr.visible d, i.label⟩

/-- A statement as far as a dialect writes it. -/
def Query.visible : Dialect → Query → Query
  | .postgres, q => q
  | _, q => q.withoutCasts

section Visible

variable {d : Dialect}

/-- Of a comparison a dialect writes what it does of both sides. -/
lemma visible_binary (op : BinaryOperator) (left right : Expr) :
    (Expr.binary op left right).visible d = .binary op (left.visible d) (right.visible d) := by
  cases d <;> rfl

/-- In parentheses a dialect writes what it does without them. -/
lemma visible_nested (inner : Expr) :
    (Expr.nested inner).visible d = .nested (inner.visible d) := by
  cases d <;> rfl

/-- Of an aggregate a dialect writes what it does of its operand. -/
lemma visible_aggregate (function : String) (inner : Expr) :
    (Expr.aggregate function inner).visible d = .aggregate function (inner.visible d) := by
  cases d <;> rfl

/-- Every dialect writes a column. -/
lemma visible_column (name : String) : (Expr.column name).visible d = .column name := by
  cases d <;> rfl

/-- Every dialect writes a literal. -/
lemma visible_literal (v : Value) : (Expr.literal v).visible d = .literal v := by
  cases d <;> rfl

/-- Every dialect writes what always holds. -/
lemma visible_always : Expr.always.visible d = .always := by
  cases d <;> rfl

/-- A dialect writes what it does of each part. -/
lemma Query.visible_eq (q : Query) :
    q.visible d =
      { q with
        select := q.select.map (·.visible d)
        filters := q.filters.map (·.visible d)
        groupBy := q.groupBy.map (·.visible d) } := by
  cases d with
  | postgres =>
    have hs : q.select.map (·.visible .postgres) = q.select := List.map_id _
    have he (es : List Expr) : es.map (·.visible .postgres) = es := List.map_id _
    rw [hs, he, he]
    rfl
  | mysql => rfl
  | duckdb => rfl

end Visible

/-! ## Readable expressions -/

/-- The places of an expression without parentheses. -/
inductive Place where
  /-- A side of a comparison. -/
  | operand
  /-- A part of a conjunction. -/
  | predicate

/-- An expression may stand in a place and is read back there. -/
inductive Readable : Place → Expr → Prop where
  | column (name : String) : Readable .operand (.column name)
  | literal (v : Value) : Readable .operand (.literal v)
  | always : Readable .operand .always
  | asText (name : String) : Readable .operand (.asText (.column name))
  | nested {cs : List Expr} : cs ≠ [] → (∀ c ∈ cs, Readable .predicate c) →
    Readable .operand (.nested (conjoin cs))
  | aggregate {cs : List Expr} (function : String) : cs ≠ [] → (∀ c ∈ cs, Readable .predicate c) →
    Readable .operand (.aggregate function (conjoin cs))
  | operand {e : Expr} : Readable .operand e → Readable .predicate e
  | comparison {op : BinaryOperator} {left right : Expr} : op ≠ .and → Readable .operand left →
    Readable .operand right → Readable .predicate (.binary op left right)

/-- A statement whose expressions are read back in their places. -/
structure Query.Readable (q : Query) : Prop where
  select : ∀ i ∈ q.select, Sql.Readable .operand i.expr
  filters : ∀ e ∈ q.filters, Sql.Readable .predicate e
  groupBy : ∀ e ∈ q.groupBy, Sql.Readable .operand e

/-- The words with which the expression of a place could go on. -/
def Place.stops : Place → List String
  | .operand => ["(", "::"]
  | .predicate => ["(", "::", "=", "!=", ">", ">=", "<", "<=", "like", "not"]

/-- The parser of a place. -/
def Place.parser (group : Parser Expr) : Place → Parser Expr
  | .operand => Grammar.operand group
  | .predicate => Grammar.predicate group

/-! ## Conjunctions -/

section Conjunctions

variable {d : Dialect} {cs : List Expr}

/-- Parts may be separated before the others are. -/
lemma separated_append {separator : String} (part next : List Lexeme) (parts : List (List Lexeme)) :
    separated separator ((part ++ [.fixed separator] ++ next) :: parts) =
      separated separator (part :: next :: parts) := by
  cases parts with
  | nil => simp [separated_cons_cons, separated_singleton]
  | cons third parts => simp [separated_cons_cons]

/-- The lexemes of a conjunction are those of its predicates with `and` between each two. -/
lemma lexemes_conjoin (hne : cs ≠ []) :
    (conjoin cs).lexemes d = separated "and" (cs.map (·.lexemes d)) := by
  cases cs with
  | nil => exact absurd rfl hne
  | cons first rest =>
    show (rest.foldl (.binary .and) first).lexemes d = _
    -- the conjunction grows at its left, so what it begins with must stay arbitrary
    induction rest generalizing first with
    | nil => rw [List.map_singleton, separated_singleton]; rfl
    | cons second rest ih =>
      rw [List.foldl_cons, ih _ (List.cons_ne_nil _ _), List.map_cons, List.map_cons, List.map_cons]
      exact separated_append _ _ _

/-- Of a conjunction a dialect writes what it does of each part. -/
lemma visible_conjoin : (conjoin cs).visible d = conjoin (cs.map (·.visible d)) := by
  cases cs with
  | nil => cases d <;> rfl
  | cons first rest =>
    show (rest.foldl (.binary .and) first).visible d = _
    induction rest generalizing first with
    | nil => rfl
    | cons second rest ih =>
      rw [List.foldl_cons, ih, List.map_cons, visible_binary]
      rfl

/-- Separated parts are at least as many lexemes as there are separators, and as each part has. -/
lemma length_separated (separator : String) (parts : List (List Lexeme)) :
    parts.length ≤ (separated separator parts).length + 1 ∧
      ∀ part ∈ parts, part.length ≤ (separated separator parts).length := by
  induction parts with
  | nil => exact ⟨Nat.zero_le _, fun _ h => nomatch h⟩
  | cons part parts ih =>
    cases parts with
    | nil => simp [separated_singleton]
    | cons next parts =>
      obtain ⟨hn, hl⟩ := ih
      simp only [separated_cons_cons, List.length_append, List.length_cons] at hn ⊢
      refine ⟨by omega, ?_⟩
      intro p hp
      rcases List.mem_cons.mp hp with rfl | hp
      · omega
      · exact Nat.le_trans (hl p hp) (by omega)

end Conjunctions

/-! ## Expressions are read -/

namespace Grammar

variable {d : Dialect} {n : Nat} {group : Parser Expr} {ls : List Lexeme} {e : Expr}

/-- What a parser reads up to a closing parenthesis. -/
lemma closed_reads {stops : List String} (hg : Reads group stops ls e) (hs : ")" ∉ stops)
    (rest : List Lexeme) : closed group (ls ++ .fixed ")" :: rest) = some (e, rest) := by
  have hc : expect [")"] (.fixed ")" :: rest) = some ((), rest) := expect_words
  rw [closed, bind_eq _ (hg _ (begins_fixed hs)), bind_eq _ hc]
  rfl

/-- Without a cast there is no type. -/
lemma typeName?_none {rest : List Lexeme} (h : begins ["::"] rest = false) :
    typeName? rest = some (none, rest) := by
  rw [typeName?, bind_eq _ (skips_none h)]
  rfl

/-- A cast is read with its type. -/
lemma typeName?_cast (type : String) (rest : List Lexeme) :
    typeName? (castLexemes type ++ rest) = some (some type, rest) := rfl

/-- A bound value is read with its type. -/
lemma reads_value (v : Value) :
    Reads (operand group) Place.operand.stops (.value v :: d.typeLexemes v) (.literal v) := by
  intro rest hb
  have ht : ∃ type, typeName? (d.typeLexemes v ++ rest) = some (type, rest) := by
    unfold Dialect.typeLexemes
    split
    · exact ⟨_, typeName?_cast _ rest⟩
    · exact ⟨_, typeName?_cast _ rest⟩
    · exact ⟨_, typeName?_none (begins_subset (by simp [Place.stops]) hb)⟩
  obtain ⟨type, ht⟩ := ht
  show boundValue v (d.typeLexemes v ++ rest) = _
  rw [boundValue, bind_eq _ ht]
  rfl

/-- A name with neither parentheses nor a type is read as a column. -/
lemma reads_column (name : String) :
    Reads (operand group) Place.operand.stops [.name name] (.column name) := by
  intro rest hb
  have hp : skips ["("] rest = some (false, rest) :=
    skips_none (begins_subset (by simp [Place.stops]) hb)
  have ht : typeName? rest = some (none, rest) :=
    typeName?_none (begins_subset (by simp [Place.stops]) hb)
  show named group name rest = _
  rw [named, bind_eq _ hp]
  exact bind_eq _ ht

/-- A column turned into text. -/
lemma reads_asText (name : String) :
    Reads (operand group) Place.operand.stops (.name name :: castLexemes "text")
      (.asText (.column name)) := by
  intro rest _
  have hp : skips ["("] (castLexemes "text" ++ rest) = some (false, castLexemes "text" ++ rest) :=
    skips_none rfl
  show named group name (castLexemes "text" ++ rest) = _
  rw [named, bind_eq _ hp]
  exact bind_eq _ (typeName?_cast "text" rest)

/-- A group in parentheses is read if the group is. -/
lemma reads_nested {stops : List String} (hg : Reads group stops ls e) (hs : ")" ∉ stops) :
    Reads (operand group) [] (.fixed "(" :: ls ++ [.fixed ")"]) (.nested e) := by
  intro rest _
  rw [List.append_assoc]
  show (closed group >>= fun e => pure (Expr.nested e)) (ls ++ .fixed ")" :: rest) = _
  rw [bind_eq _ (closed_reads hg hs rest)]
  rfl

/-- An aggregate is read if the group in its parentheses is. -/
lemma reads_aggregate {stops : List String} (function : String) (hg : Reads group stops ls e)
    (hs : ")" ∉ stops) :
    Reads (operand group) [] (.name function :: .fixed "(" :: ls ++ [.fixed ")"])
      (.aggregate function e) := by
  intro rest _
  rw [List.append_assoc]
  show named group function (.fixed "(" :: (ls ++ .fixed ")" :: rest)) = _
  rw [named, bind_eq _ skips_word, if_pos rfl, bind_eq _ (closed_reads hg hs rest)]
  rfl

/-- The words of an operator that compares are read as the operator. -/
lemma operator?_words {op : BinaryOperator} (h : op ≠ .and) (rest : List Lexeme) :
    operator? (op.lexemes ++ rest) = some (some op, rest) := by
  cases op with
  | and => exact absurd rfl h
  | _ => rfl

/-- The first word of a comparison is one that a predicate goes on with. -/
lemma words_eq {op : BinaryOperator} (h : op ∈ comparisons) :
    ∃ word words, op.words = word :: words ∧ word ∈ Place.predicate.stops := by
  cases op with
  | and => exact absurd h (by decide)
  | notLike => exact ⟨"not", ["like"], rfl, by decide⟩
  | _ => exact ⟨_, [], rfl, by decide⟩

/-- Where a predicate ends there is no operator. -/
lemma operator?_none {rest : List Lexeme} (h : begins Place.predicate.stops rest = false) :
    operator? rest = some (none, rest) := by
  have hn : (comparisons.findSome? fun op => (afterWords op.words rest).map (op, ·)) = none := by
    rw [List.findSome?_eq_none_iff]
    intro op hop
    obtain ⟨word, words, hw, hs⟩ := words_eq hop
    rw [hw, afterWords_none (begins_subset (by simpa using hs) h)]
    rfl
  rw [operator?, hn]

/-- An operand that no operator follows. -/
lemma Reads.predicate (h : Reads (operand group) Place.operand.stops ls e) :
    Reads (predicate group) Place.predicate.stops ls e := by
  intro rest hb
  rw [Grammar.predicate, bind_eq _ (h rest (begins_subset (by simp [Place.stops]) hb)),
    bind_eq _ (operator?_none hb)]
  rfl

/-- A comparison is read if both of its sides are. -/
lemma reads_comparison {ms : List Lexeme} {left right : Expr} {op : BinaryOperator}
    (hop : op ≠ .and) (hl : Reads (operand group) Place.operand.stops ls left)
    (hr : Reads (operand group) Place.operand.stops ms right) :
    Reads (predicate group) Place.predicate.stops (ls ++ op.lexemes ++ ms)
      (.binary op left right) := by
  intro rest hb
  have ho : begins Place.operand.stops (op.lexemes ++ (ms ++ rest)) = false := by cases op <;> rfl
  rw [List.append_assoc, List.append_assoc, Grammar.predicate, bind_eq _ (hl _ ho),
    bind_eq _ (operator?_words hop _)]
  dsimp only
  rw [bind_eq _ (hr rest (begins_subset (by simp [Place.stops]) hb))]
  rfl

/-- A conjunction is read if its predicates are. -/
lemma conjunction_reads {cs : List Expr} (hne : cs ≠ [])
    (hn : ((conjoin cs).lexemes d).length ≤ n)
    (h : ∀ c ∈ cs, (c.lexemes d).length ≤ n →
      Reads (predicate (conjunction n)) Place.predicate.stops (c.lexemes d) (c.visible d)) :
    Reads (conjunction (n + 1)) ("and" :: Place.predicate.stops) ((conjoin cs).lexemes d)
      ((conjoin cs).visible d) := by
  rw [lexemes_conjoin hne] at hn ⊢
  obtain ⟨hcount, hlength⟩ := length_separated "and" (cs.map (·.lexemes d))
  rw [List.length_map] at hcount
  have hc : ∀ c ∈ cs,
      Reads (predicate (conjunction n)) Place.predicate.stops (c.lexemes d) (c.visible d) :=
    fun c hc => h c hc (Nat.le_trans (hlength _ (List.mem_map_of_mem hc)) hn)
  intro rest hb
  have hs := sepBy_reads (by decide) hne (Nat.le_trans hcount (Nat.succ_le_succ hn)) hc rest hb
  rw [conjunction, bind_eq _ hs, visible_conjoin]
  rfl

end Grammar

open Grammar in
/-- A readable expression is read back, given fuel for its lexemes. -/
lemma Readable.reads {d : Dialect} {place : Place} {e : Expr} (h : Readable place e) :
    ∀ n, (e.lexemes d).length ≤ n →
      Reads (place.parser (conjunction n)) place.stops (e.lexemes d) (e.visible d) := by
  induction h with
  | column name =>
    intro n _
    rw [visible_column]
    exact reads_column name
  | literal v =>
    intro n _
    rw [visible_literal]
    exact reads_value v
  | always =>
    intro n _ rest _
    rw [visible_always]
    rfl
  | asText name =>
    intro n _
    cases d with
    | postgres => exact reads_asText name
    | mysql => exact reads_column name
    | duckdb => exact reads_column name
  | @nested cs hne _ ih =>
    -- the parentheses are the fuel for what stands between them
    intro n hn
    have hl : ((Expr.nested (conjoin cs)).lexemes d).length =
        ((conjoin cs).lexemes d).length + 2 := by
      simp [Expr.lexemes]
    obtain ⟨m, rfl⟩ : ∃ m, n = m + 1 := ⟨n - 1, by omega⟩
    have hg := conjunction_reads hne (by omega) fun c hc => ih c hc m
    rw [visible_nested]
    exact (reads_nested hg (by decide)).mono (List.nil_subset _)
  | @aggregate cs function hne _ ih =>
    intro n hn
    have hl : ((Expr.aggregate function (conjoin cs)).lexemes d).length =
        ((conjoin cs).lexemes d).length + 3 := by
      simp [Expr.lexemes]
    obtain ⟨m, rfl⟩ : ∃ m, n = m + 1 := ⟨n - 1, by omega⟩
    have hg := conjunction_reads hne (by omega) fun c hc => ih c hc m
    rw [visible_aggregate]
    exact (reads_aggregate function hg (by decide)).mono (List.nil_subset _)
  | operand _ ih => exact fun n hn => (ih n hn).predicate
  | @comparison op left right hop _ _ ihl ihr =>
    intro n hn
    simp only [Expr.lexemes, List.length_append] at hn
    rw [visible_binary]
    exact reads_comparison hop (ihl n (by omega)) (ihr n (by omega))

/-! ## Statements are read -/

namespace Grammar

variable {d : Dialect} {n : Nat} {group : Parser Expr}

/-- A selected item is read if its expression is. -/
lemma reads_selectItem {i : SelectItem}
    (h : Reads (operand group) Place.operand.stops (i.expr.lexemes d) (i.expr.visible d)) :
    Reads (selectItem group) ("as" :: Place.operand.stops) (i.lexemes d) (i.visible d) := by
  intro rest hb
  unfold SelectItem.lexemes SelectItem.visible
  cases i.label with
  | none =>
    dsimp only
    rw [selectItem, bind_eq _ (h rest (begins_subset (List.subset_cons_self _ _) hb)),
      bind_eq _ (skips_none (begins_subset (by simp) hb))]
    rfl
  | some label =>
    have he := h (.fixed "as" :: .name label :: rest) rfl
    rw [List.append_assoc, selectItem]
    exact bind_eq _ he

/-- Lexemes of separated parts begin with the first part. -/
lemma separated_cons (separator : String) (part : List Lexeme) (parts : List (List Lexeme)) :
    ∃ tail, separated separator (part :: parts) = part ++ tail := by
  cases parts with
  | nil => exact ⟨[], by rw [separated_singleton, List.append_nil]⟩
  | cons next parts => exact ⟨_, separated_cons_cons part next parts⟩

/-- A selected operand does not begin with a star. -/
lemma begins_selectItem {i : SelectItem} (h : Readable .operand i.expr) (rest : List Lexeme) :
    begins ["*"] (i.lexemes d ++ rest) = false := by
  have he (tail : List Lexeme) : begins ["*"] (i.expr.lexemes d ++ tail) = false := by
    generalize i.expr = e at h
    cases h <;> rfl
  unfold SelectItem.lexemes
  cases i.label with
  | none => exact he rest
  | some label =>
    rw [List.append_assoc]
    exact he _

/-- Items are read if their expressions are, and no items as everything. -/
lemma selected_reads {items : List SelectItem} (hr : ∀ i ∈ items, Readable .operand i.expr)
    (hn : items.length ≤ n)
    (h : ∀ i ∈ items,
      Reads (operand group) Place.operand.stops (i.expr.lexemes d) (i.expr.visible d)) :
    Reads (selected group n) ("," :: "as" :: Place.operand.stops) (selectLexemes d items)
      (items.map (·.visible d)) := by
  intro rest hb
  cases items with
  | nil => rfl
  | cons i items =>
    have hs := sepBy_reads (by decide) (List.cons_ne_nil i items) hn
      (fun i hi => reads_selectItem (h i hi)) rest hb
    have hstar : begins ["*"]
        (separated "," ((i :: items).map (·.lexemes d)) ++ rest) = false := by
      obtain ⟨tail, e⟩ := separated_cons "," (i.lexemes d) (items.map (·.lexemes d))
      rw [List.map_cons, e, List.append_assoc]
      exact begins_selectItem (hr i List.mem_cons_self) _
    show selected group n (.fixed "select" :: (separated "," _ ++ rest)) = _
    rw [selected, bind_eq _ expect_word, bind_eq _ (skips_none hstar)]
    exact hs

/-- A sort item is read, whatever follows. -/
lemma sortItem_reads (i : SortItem) : Reads sortItem [] (sortLexemes i) i := by
  intro rest _
  obtain ⟨column, direction⟩ := i
  cases direction <;> rfl

/-- A count is read if its keyword does not come again. -/
lemma count_reads (word : String) (count : Option Nat) :
    Reads (Grammar.count word) [word] (countLexemes word count) count := by
  intro rest hb
  cases count with
  | none =>
    show Grammar.count word rest = _
    rw [Grammar.count, bind_eq _ (skips_none hb)]
    rfl
  | some n =>
    have hname : name (.name (toString n) :: rest) = some (toString n, rest) := rfl
    show Grammar.count word (.fixed word :: .name (toString n) :: rest) = _
    rw [Grammar.count, bind_eq _ skips_word, if_pos rfl, bind_eq _ hname, number?_toString]
    rfl

/-! ### Clauses in their order -/

section Clauses

variable {stops words : List String} {rest : List Lexeme}

/-- Lexemes are none, or begin with one of the words. -/
def Opens (words : List String) : List Lexeme → Prop
  | [] => True
  | .fixed s :: _ => s ∈ words
  | _ => False

/-- Lexemes that open with one of the words do not begin with words that are none of these. -/
lemma Opens.begins (h : Opens words rest) (hw : ∀ word ∈ words, word ∉ stops) :
    begins stops rest = false := by
  cases rest with
  | nil => rfl
  | cons l rest =>
    cases l with
    | fixed s => exact begins_fixed (hw s h)
    | name s => rfl
    | value v => rfl

/-- What was read is handed on, up to lexemes that it cannot go on with. -/
lemma Reads.bind_eq {α β : Type} {p : Parser α} {a : α} {ls : List Lexeme} {f : α → Parser β}
    (h : Reads p stops ls a) (ho : Opens words rest) (hw : ∀ word ∈ words, word ∉ stops) :
    (p >>= f) (ls ++ rest) = f a rest :=
  Grammar.bind_eq f (h rest (ho.begins hw))

/-- More words may be allowed. -/
lemma Opens.mono {others : List String} (h : Opens words rest) (hw : words ⊆ others) :
    Opens others rest := by
  cases rest with
  | nil => trivial
  | cons l rest =>
    cases l with
    | fixed s => exact hw h
    | name s => exact h
    | value v => exact h

/-- A clause begins with its keyword, or as what follows it. -/
lemma Opens.clause (h : Opens words rest) (keyword : String) (more : List String)
    (separator : String) (parts : List (List Lexeme)) :
    Opens (keyword :: words) (clauseLexemes (keyword :: more) separator parts ++ rest) := by
  cases parts with
  | nil => exact h.mono (List.subset_cons_self _ _)
  | cons part parts => exact List.mem_cons_self

/-- A count begins with its keyword, or as what follows it. -/
lemma Opens.count (h : Opens words rest) (keyword : String) (count : Option Nat) :
    Opens (keyword :: words) (countLexemes keyword count ++ rest) := by
  cases count with
  | none => exact h.mono (List.subset_cons_self _ _)
  | some n => exact List.mem_cons_self

/-- A clause has about as many lexemes as parts, and as many as each part. -/
lemma length_clause (words : List String) (separator : String) (parts : List (List Lexeme)) :
    parts.length ≤ (clauseLexemes words separator parts).length + 1 ∧
      ∀ part ∈ parts, part.length ≤ (clauseLexemes words separator parts).length := by
  cases parts with
  | nil => exact ⟨Nat.zero_le _, fun _ h => nomatch h⟩
  | cons part parts =>
    obtain ⟨hn, hl⟩ := length_separated separator (part :: parts)
    show _ ≤ (words.map Lexeme.fixed ++ separated separator (part :: parts)).length + 1 ∧
      ∀ p ∈ part :: parts, p.length ≤
        (words.map Lexeme.fixed ++ separated separator (part :: parts)).length
    rw [List.length_append]
    exact ⟨by omega, fun p hp => Nat.le_trans (hl p hp) (by omega)⟩

end Clauses

/-- A clause of readable expressions is read, given fuel for its lexemes. -/
lemma place_reads {place : Place} {word separator : String} {words : List String} {es : List Expr}
    (hsep : separator ∉ place.stops) (hr : ∀ e ∈ es, Readable place e)
    (hn : (clauseLexemes (word :: words) separator (es.map (·.lexemes d))).length ≤ n) :
    Reads (clause (word :: words) separator (place.parser (conjunction n)) (n + 1))
      (word :: separator :: place.stops)
      (clauseLexemes (word :: words) separator (es.map (·.lexemes d))) (es.map (·.visible d)) := by
  obtain ⟨hcount, hlength⟩ := length_clause (word :: words) separator (es.map (·.lexemes d))
  rw [List.length_map] at hcount
  refine clause_reads hsep (by omega) fun e he => ?_
  exact (hr e he).reads n (Nat.le_trans (hlength _ (List.mem_map_of_mem he)) hn)

/-- What is selected is read, given fuel for its lexemes. -/
lemma select_reads {items : List SelectItem} (hr : ∀ i ∈ items, Readable .operand i.expr)
    (hn : (selectLexemes d items).length ≤ n) :
    Reads (selected (conjunction n) (n + 1)) ("," :: "as" :: Place.operand.stops)
      (selectLexemes d items) (items.map (·.visible d)) := by
  cases items with
  | nil => exact selected_reads hr (Nat.zero_le _) fun i hi => nomatch hi
  | cons i items =>
    have hsel : selectLexemes d (i :: items) =
        clauseLexemes ["select"] "," ((i :: items).map (·.lexemes d)) := rfl
    obtain ⟨hcount, hlength⟩ := length_clause ["select"] "," ((i :: items).map (·.lexemes d))
    rw [List.length_map, ← hsel] at hcount
    refine selected_reads hr (by omega) fun j hj => (hr j hj).reads n ?_
    have hj := hlength _ (List.mem_map_of_mem hj)
    have he : (j.expr.lexemes d).length ≤ (j.lexemes d).length := by
      unfold SelectItem.lexemes
      cases j.label with
      | none => exact Nat.le_refl _
      | some label =>
        rw [List.length_append]
        exact Nat.le_add_right _ _
    rw [← hsel] at hj
    omega

/-- Sort items are read, given fuel for their lexemes. -/
lemma orders_reads {items : List SortItem}
    (hn : (clauseLexemes ["order", "by"] "," (items.map sortLexemes)).length ≤ n) :
    Reads (clause ["order", "by"] "," sortItem (n + 1)) ["order", ","]
      (clauseLexemes ["order", "by"] "," (items.map sortLexemes)) items := by
  have hcount := (length_clause ["order", "by"] "," (items.map sortLexemes)).1
  rw [List.length_map] at hcount
  have h : Reads (clause ["order", "by"] "," sortItem (n + 1)) ["order", ","]
      (clauseLexemes ["order", "by"] "," (items.map sortLexemes)) (items.map id) :=
    clause_reads List.not_mem_nil (by omega) fun i _ => sortItem_reads i
  rwa [List.map_id] at h

/-- A readable statement is read, given fuel for its lexemes. -/
lemma statement_reads {q : Query} (h : q.Readable) (hn : (q.lexemes d).length ≤ n) :
    statement n (q.lexemes d) = some (q.visible d, []) := by
  have e : q.lexemes d =
      selectLexemes d q.select ++ (.fixed "FROM" :: .name q.table ::
      (clauseLexemes ["where"] "and" (q.filters.map (·.lexemes d)) ++
      (clauseLexemes ["group", "by"] "," (q.groupBy.map (·.lexemes d)) ++
      (clauseLexemes ["order", "by"] "," (q.orderBy.map sortLexemes) ++
      (countLexemes "limit" q.limit ++ (countLexemes "offset" q.offset ++ [])))))) := by
    simp [Query.lexemes]
  rw [e] at hn ⊢
  simp only [List.length_append, List.length_cons] at hn
  -- each clause is read up to the next, so what may follow is said from the end
  have onone : Opens [] [] := trivial
  have ooffset := onone.count "offset" q.offset
  have olimit := ooffset.count "limit" q.limit
  have oorders := olimit.clause "order" ["by"] "," (q.orderBy.map sortLexemes)
  have ogroups := oorders.clause "group" ["by"] "," (q.groupBy.map (·.lexemes d))
  have ofrom (rest : List Lexeme) :
      begins ("," :: "as" :: Place.operand.stops) (.fixed "FROM" :: rest) = false := rfl
  have hname (rest : List Lexeme) : name (.name q.table :: rest) = some (q.table, rest) := rfl
  have hselect : Reads (selected (conjunction n) (n + 1)) _ (selectLexemes d q.select) _ :=
    select_reads h.select (by omega)
  have hfilters : Reads (clause ["where"] "and" (predicate (conjunction n)) (n + 1)) _
      (clauseLexemes ["where"] "and" (q.filters.map (·.lexemes d))) _ :=
    place_reads (by decide) h.filters (by omega)
  have hgroups : Reads (clause ["group", "by"] "," (operand (conjunction n)) (n + 1)) _
      (clauseLexemes ["group", "by"] "," (q.groupBy.map (·.lexemes d))) _ :=
    place_reads (by decide) h.groupBy (by omega)
  have horders : Reads (clause ["order", "by"] "," sortItem (n + 1)) _
      (clauseLexemes ["order", "by"] "," (q.orderBy.map sortLexemes)) _ :=
    orders_reads (by omega)
  rw [statement, bind_eq _ (hselect _ (ofrom _)), bind_eq _ expect_word, bind_eq _ (hname _),
    hfilters.bind_eq ogroups (by decide), hgroups.bind_eq oorders (by decide),
    horders.bind_eq olimit (by decide), (count_reads "limit" q.limit).bind_eq ooffset (by decide),
    (count_reads "offset" q.offset).bind_eq onone (by decide), q.visible_eq]
  rfl

end Grammar

/-- A readable statement is read back from its text and values, as far as the dialect writes it. -/
lemma Query.parse_render {d : Dialect} {q : Query} (hn : ∀ name ∈ q.names, isIdentifier name)
    (h : q.Readable) : parse (q.render d .parameterized) = some (q.visible d) := by
  unfold parse
  rw [q.lex_render hn]
  dsimp only
  rw [Grammar.statement_reads h (Nat.le_refl _)]

end GridRows.Sql
