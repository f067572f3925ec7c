import GridRows.Proofs.Sql.Lexemes

/-!
# The grammar of statements

A reference parser of parameterized statements, which reads lexemes from left to right and looks one
part ahead.  Comparisons bind stronger than `and`, and parentheses hold a conjunction.  The type that
is said of a bound value belongs to its placeholder; the one that is said of a column turns it into
text.

`Reads` says of a parser that it takes lexemes for a value and leaves what follows, whatever this is,
as long as the parser could not go on with it.
-/

namespace GridRows.Sql

open Json (Value)

/-- A parser of lexemes, which hands on those that it leaves. -/
abbrev Parser := StateT (List Lexeme) Option

namespace Grammar

/-- What is left of the lexemes after the words, if these come first. -/
def afterWords : List String → List Lexeme → Option (List Lexeme)
  | [], ls => some ls
  | word :: words, .fixed s :: ls => if s = word then afterWords words ls else none
  | _ :: _, _ => none

/-- Skips the words if they come next, and says whether they did. -/
def skips (words : List String) : Parser Bool := fun ls =>
  match afterWords words ls with
  | some rest => some (true, rest)
  | none => some (false, ls)

/-- Skips the words, which must come next. -/
def expect (words : List String) : Parser Unit := do
  unless ← skips words do failure

/-- The next lexeme. -/
def next : Parser Lexeme
  | [] => none
  | l :: ls => some (l, ls)

/-- A name. -/
def name : Parser String := do
  match ← next with
  | .name s => return s
  | _ => failure

/-- Items with a separator between each two; `n` bounds their number. -/
def sepBy {α : Type} (separator : String) (item : Parser α) : Nat → Parser (List α)
  | 0 => failure
  | n + 1 => do
    let a ← item
    if ← skips [separator] then return a :: (← sepBy separator item n) else return [a]

/-- The items of a clause; none if its keywords do not come next. -/
def clause {α : Type} (keywords : List String) (separator : String) (item : Parser α) (n : Nat) :
    Parser (List α) := do
  if ← skips keywords then sepBy separator item n else return []

/-! ## Expressions -/

/-- The conjunction of predicates, from left to right; that of none holds of every row. -/
def conjoin : List Expr → Expr
  | [] => .always
  | first :: rest => rest.foldl (.binary .and) first

/-- What stands in parentheses, after the opening one. -/
def closed (group : Parser Expr) : Parser Expr := do
  let e ← group
  expect [")"]
  return e

/-- The type that is said of an expression, if one is. -/
def typeName? : Parser (Option String) := do
  if ← skips ["::"] then return some (← name) else return none

/-- The literal of a bound value; the type of its placeholder is left out. -/
def boundValue (v : Value) : Parser Expr := do
  let _ ← typeName?
  return .literal v

/-- What a name begins: a function of what stands in parentheses, or a column, maybe as text. -/
def named (group : Parser Expr) (s : String) : Parser Expr := do
  if ← skips ["("] then return .aggregate s (← closed group)
  else match ← typeName? with
    | some type => if type = "text" then return .asText (.column s) else failure
    | none => return .column s

/-- An operand; `group` reads what stands in parentheses. -/
def operand (group : Parser Expr) : Parser Expr := do
  match ← next with
  | .value v => boundValue v
  | .name s => named group s
  | .fixed s =>
    if s = "(" then return .nested (← closed group)
    else if s = "true" then return .always
    else failure

/-- The operators of comparisons. -/
def comparisons : List BinaryOperator := [.eq, .neq, .gt, .gte, .lt, .lte, .like, .notLike]

/-- The operator that comes next, if any. -/
def operator? : Parser (Option BinaryOperator) := fun ls =>
  match comparisons.findSome? fun op => (afterWords op.words ls).map (op, ·) with
  | some (op, rest) => some (some op, rest)
  | none => some (none, ls)

/-- An operand, or a comparison of two. -/
def predicate (group : Parser Expr) : Parser Expr := do
  let left ← operand group
  match ← operator? with
  | some op => return .binary op left (← operand group)
  | none => return left

/-- A conjunction of predicates; `n` bounds their number and the depth of parentheses. -/
def conjunction : Nat → Parser Expr
  | 0 => failure
  | n + 1 => return conjoin (← sepBy "and" (predicate (conjunction n)) (n + 1))

/-! ## Statements -/

/-- A selected expression. -/
def selectItem (group : Parser Expr) : Parser SelectItem := do
  let expr ← operand group
  if ← skips ["as"] then return ⟨expr, some (← name)⟩ else return ⟨expr, none⟩

/-- What is selected. -/
def selected (group : Parser Expr) (n : Nat) : Parser (List SelectItem) := do
  expect ["select"]
  if ← skips ["*"] then return [] else sepBy "," (selectItem group) n

/-- A sort item. -/
def sortItem : Parser SortItem := do
  let column ← name
  if ← skips ["asc"] then return ⟨column, .asc⟩
  expect ["desc"]
  return ⟨column, .desc⟩

/-- A count behind a keyword, if this comes next. -/
def count (keyword : String) : Parser (Option Nat) := do
  if ← skips [keyword] then
    match number? (← name).toList with
    | some n => return some n
    | none => failure
  else return none

/-- A statement; `n` bounds the number of its lexemes. -/
def statement (n : Nat) : Parser Query := do
  let select ← selected (conjunction n) (n + 1)
  expect ["FROM"]
  let table ← name
  let filters ← clause ["where"] "and" (predicate (conjunction n)) (n + 1)
  let groupBy ← clause ["group", "by"] "," (operand (conjunction n)) (n + 1)
  let orderBy ← clause ["order", "by"] "," sortItem (n + 1)
  let limit ← count "limit"
  let offset ← count "offset"
  return { select, table, filters, groupBy, orderBy, limit, offset }

/-! ## Reading on -/

/-- Whether lexemes begin with one of the words. -/
def begins (words : List String) : List Lexeme → Bool
  | .fixed s :: _ => words.contains s
  | _ => false

/-- The parser takes the lexemes for the value unless one of the words comes next. -/
def Reads {α : Type} (p : Parser α) (stops : List String) (ls : List Lexeme) (a : α) : Prop :=
  ∀ rest, begins stops rest = false → p (ls ++ rest) = some (a, rest)

section Reads

variable {α β : Type} {ls rest : List Lexeme} {words stops : List String} {word separator : String}

/-- Lexemes that begin with none of the words begin with none of fewer words. -/
lemma begins_subset (h : words ⊆ stops) (hb : begins stops rest = false) :
    begins words rest = false := by
  cases rest with
  | nil => rfl
  | cons l rest =>
    cases l with
    | fixed s =>
      rw [begins, ← Bool.not_eq_true, List.contains_iff_mem] at hb ⊢
      exact fun hs => hb (h hs)
    | name s => rfl
    | value v => rfl

/-- Lexemes that begin with another word begin with none of the words. -/
lemma begins_fixed (h : word ∉ stops) : begins stops (.fixed word :: rest) = false := by
  rw [begins, ← Bool.not_eq_true, List.contains_iff_mem]
  exact h

/-- More words may be ruled out. -/
lemma Reads.mono {p : Parser α} {a : α} (h : Reads p words ls a) (hw : words ⊆ stops) :
    Reads p stops ls a :=
  fun rest hb => h rest (begins_subset hw hb)

/-- What was read first is handed on. -/
lemma bind_eq {p : Parser α} {a : α} (f : α → Parser β) (h : p ls = some (a, rest)) :
    (p >>= f) ls = f a rest := by
  show (p ls >>= fun result => f result.1 result.2) = f a rest
  rw [h]
  rfl

/-- Words that come next are skipped. -/
lemma skips_words : skips words (words.map .fixed ++ rest) = some (true, rest) := by
  have h : afterWords words (words.map .fixed ++ rest) = some rest := by
    induction words with
    | nil => rfl
    | cons word words ih =>
      rw [List.map_cons, List.cons_append, afterWords, if_pos rfl]
      exact ih
  rw [skips, h]

/-- A word that comes next is skipped. -/
lemma skips_word : skips [word] (.fixed word :: rest) = some (true, rest) :=
  skips_words

/-- Words do not come first if the first of them does not. -/
lemma afterWords_none (h : begins [word] rest = false) :
    afterWords (word :: words) rest = none := by
  unfold afterWords
  split
  · rename_i e
    cases e
  · rename_i s _ e
    cases e
    have hs : s ≠ word := by simpa [begins] using h
    rw [if_neg hs]
  · rfl

/-- Words that do not come next are not skipped. -/
lemma skips_none (h : begins [word] rest = false) :
    skips (word :: words) rest = some (false, rest) := by
  rw [skips, afterWords_none h]

/-- Words that must come next are taken. -/
lemma expect_words : expect words (words.map .fixed ++ rest) = some ((), rest) := by
  rw [expect, bind_eq _ skips_words]
  rfl

/-- A word that must come next is taken. -/
lemma expect_word : expect [word] (.fixed word :: rest) = some ((), rest) :=
  expect_words

/-- Separated items are read if each of them is. -/
lemma sepBy_reads {item : Parser β} {lexemes : α → List Lexeme} {view : α → β} {n : Nat}
    {parts : List α} (hsep : separator ∉ stops) (hne : parts ≠ []) (hn : parts.length ≤ n)
    (h : ∀ a ∈ parts, Reads item stops (lexemes a) (view a)) :
    Reads (sepBy separator item n) (separator :: stops)
      (separated separator (parts.map lexemes)) (parts.map view) := by
  intro rest hb
  induction n generalizing parts with
  | zero => exact absurd (List.eq_nil_of_length_eq_zero (Nat.le_zero.mp hn)) hne
  | succ n ih =>
    cases parts with
    | nil => exact absurd rfl hne
    | cons a parts =>
      have ha := h a List.mem_cons_self
      cases parts with
      -- the last item ends where neither it nor the list can go on, each other at a separator
      | nil =>
        rw [List.map_singleton, separated_singleton, sepBy,
          bind_eq _ (ha rest (begins_subset (List.subset_cons_self _ _) hb)),
          bind_eq _ (skips_none (begins_subset (by simp) hb))]
        rfl
      | cons b parts =>
        have ih := ih (List.cons_ne_nil b parts) (Nat.le_of_succ_le_succ hn)
          fun c hc => h c (List.mem_cons_of_mem _ hc)
        rw [List.map_cons, List.map_cons, separated_cons_cons, List.append_assoc, List.cons_append,
          sepBy, bind_eq _ (ha _ (begins_fixed hsep)), bind_eq _ skips_word, if_pos rfl]
        exact bind_eq _ ih

/-- A clause is read if its items are and its keyword does not come next. -/
lemma clause_reads {item : Parser β} {lexemes : α → List Lexeme} {view : α → β} {n : Nat}
    {parts : List α} (hsep : separator ∉ stops) (hn : parts.length ≤ n)
    (h : ∀ a ∈ parts, Reads item stops (lexemes a) (view a)) :
    Reads (clause (word :: words) separator item n) (word :: separator :: stops)
      (clauseLexemes (word :: words) separator (parts.map lexemes)) (parts.map view) := by
  intro rest hb
  cases parts with
  | nil =>
    show clause (word :: words) separator item n rest = _
    rw [clause, bind_eq _ (skips_none (begins_subset (by simp) hb))]
    rfl
  | cons a parts =>
    have hs := sepBy_reads hsep (List.cons_ne_nil a parts) hn h rest
      (begins_subset (List.subset_cons_self _ _) hb)
    show clause (word :: words) separator item n ((word :: words).map .fixed ++ _ ++ rest) = _
    rw [clause, List.append_assoc, bind_eq _ skips_words, if_pos rfl]
    exact hs

end Reads

end Grammar

/-- The statement that a text with bound values stands for, if it is one. -/
def parse (r : Rendered) : Option Query :=
  let ls := lex r.params 0 r.sql.toList
  match Grammar.statement ls.length ls with
  | some (q, []) => some q
  | _ => none

end GridRows.Sql
