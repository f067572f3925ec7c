import GridRows.Proofs.Sql.Names
import GridRows.Sql.Dialect

/-!
# A lexer of statements

A lexer for parameterized statements.  It cuts a text into runs, maximal rows of name characters or of
operator characters, any other character being a run of its own, and takes each run for a keyword, a
symbol, a name, or the placeholder of a bound value.  Placeholders without a number take the values in
their order.

What it finds in the parts of a statement is said for each kind of part: identifiers (`lex_name`),
numbers, which it reads as names, and placeholders (`lex_placeholder`).
-/

namespace GridRows.Sql

open Json (Value)

/-! ## Runs -/

/-- A character of names and of numbered placeholders. -/
def isWordChar (c : Char) : Bool := isNameChar c || c = '$'

/-- A character of operators. -/
def isOperatorChar (c : Char) : Bool := ['=', '!', '<', '>', ':'].contains c

/-- Whether two neighbours belong to one run. -/
def joins (c d : Char) : Bool :=
  isWordChar c && isWordChar d || isOperatorChar c && isOperatorChar d

/-- The runs of a text with one more character before it. -/
def pushChar (c : Char) : List (List Char) → List (List Char)
  | (d :: run) :: rest =>
    if joins c d then (c :: d :: run) :: rest else [c] :: (d :: run) :: rest
  | rest => [c] :: rest

/-- The runs of a text. -/
def runs : List Char → List (List Char)
  | [] => []
  | c :: cs => pushChar c (runs cs)

/-- The first run begins with the first character. -/
lemma runs_cons (c : Char) (cs : List Char) : ∃ run rest, runs (c :: cs) = (c :: run) :: rest := by
  rw [runs]
  unfold pushChar
  split
  · split
    · exact ⟨_, _, rfl⟩
    · exact ⟨_, _, rfl⟩
  · exact ⟨_, _, rfl⟩

/-- Two texts that do not join at their border have their runs one after the other. -/
lemma runs_append {xs ys : List Char}
    (h : ∀ c ∈ xs.getLast?, ∀ d ∈ ys.head?, joins c d = false) :
    runs (xs ++ ys) = runs xs ++ runs ys := by
  induction xs with
  | nil => rfl
  | cons c xs ih =>
    cases xs with
    -- only the last character of the first text has a neighbour in the second
    | nil =>
      cases ys with
      | nil => rfl
      | cons d ys =>
        obtain ⟨run, rest, e⟩ := runs_cons d ys
        have hj : joins c d = false := h c rfl d rfl
        rw [List.singleton_append, runs, e, pushChar, hj]
        rfl
    | cons b xs =>
      have ih := ih (by simpa [List.getLast?_cons_cons] using h)
      obtain ⟨run, rest, e⟩ := runs_cons b xs
      show pushChar c (runs (b :: xs ++ ys)) = pushChar c (runs (b :: xs)) ++ runs ys
      rw [ih, e, List.cons_append, pushChar, pushChar]
      split <;> rfl

/-- Characters that belong together make one run. -/
lemma runs_word {cs : List Char} (hne : cs ≠ []) (h : ∀ c ∈ cs, ∀ d ∈ cs, joins c d) :
    runs cs = [cs] := by
  induction cs with
  | nil => exact absurd rfl hne
  | cons c cs ih =>
    cases cs with
    | nil => rfl
    | cons d cs =>
      have ih := ih (by simp) fun a ha b hb =>
        h a (List.mem_cons_of_mem _ ha) b (List.mem_cons_of_mem _ hb)
      have hj : joins c d := h c (by simp) d (by simp)
      rw [runs, ih, pushChar, if_pos hj]

/-! ## Lexemes -/

/-- A part of a statement. -/
inductive Lexeme where
  /-- A keyword or a symbol. -/
  | fixed (s : String)
  | name (s : String)
  /-- The value that is bound to a placeholder. -/
  | value (v : Value)

/-- The keywords of statements. -/
def keywords : List String :=
  ["select", "as", "FROM", "where", "and", "not", "like", "true", "group", "by", "order", "asc",
    "desc", "limit", "offset"]

/-- Whether a name is an identifier: it has plain characters, at least one, and is no keyword. -/
def isIdentifier (name : String) : Bool :=
  name ≠ "" && isPlain name && !keywords.contains name

/-- The number that digits spell. -/
def number? (cs : List Char) : Option Nat :=
  if cs.isEmpty || !cs.all Char.isDigit then none else some (Nat.ofDigitChars 10 cs 0)

/-- The place that a placeholder marks, if `n` placeholders stand before it. -/
def place? (n : Nat) : List Char → Option Nat
  | ['?'] => some n
  | '$' :: digits =>
    match number? digits with
    | some (i + 1) => some i
    | _ => none
  | _ => none

/-- The lexeme of a run that marks no place. -/
def wordLexeme (run : List Char) : Lexeme :=
  let s := String.ofList run
  if isIdentifier s then .name s else .fixed s

/-- The lexemes of runs, if `n` placeholders stand before them; blanks are left out. -/
def lexemes (bound : List Value) (n : Nat) : List (List Char) → List Lexeme
  | [] => []
  | run :: rest =>
    match place? n run with
    | some i =>
      (bound[i]?.map Lexeme.value).getD (wordLexeme run) :: lexemes bound (n + 1) rest
    | none =>
      if run = [' '] then lexemes bound n rest else wordLexeme run :: lexemes bound n rest

/-- The lexemes of a text, if `n` placeholders stand before it. -/
def lex (bound : List Value) (n : Nat) (cs : List Char) : List Lexeme := lexemes bound n (runs cs)

/-- Whether a text cannot go on with a name. -/
def Breaks (cs : List Char) : Prop := ∀ c ∈ cs.head?, isWordChar c = false

/-- Whether a text ends so that nothing after it joins its last run. -/
def isClosed (cs : List Char) : Bool :=
  cs.getLast?.all fun c => !isWordChar c && !isOperatorChar c

section Lex

variable {bound : List Value} {n : Nat} {rest : List Char}

/-- A text that joins nothing after it is read by itself. -/
lemma lex_append {xs : List Char} (h : isClosed xs) :
    lex bound n (xs ++ rest) = lexemes bound n (runs xs ++ runs rest) := by
  rw [lex, runs_append]
  intro c hc d _
  rw [isClosed, Option.mem_def.mp hc] at h
  simp_all [joins]

/-- A text that does not end in an operator is read by itself if no name goes on after it. -/
lemma lex_append_breaks {xs : List Char} (h : xs.getLast?.all fun c => !isOperatorChar c)
    (hb : Breaks rest) : lex bound n (xs ++ rest) = lexemes bound n (runs xs ++ runs rest) := by
  rw [lex, runs_append]
  intro c hc d hd
  rw [Option.mem_def.mp hc] at h
  have hc : isOperatorChar c = false := by simpa using h
  simp [joins, hc, hb d hd]

/-- A character of words is none of operators. -/
lemma isOperatorChar_of_isWordChar {c : Char} (h : isWordChar c) : isOperatorChar c = false := by
  rw [← Bool.not_eq_true]
  intro ho
  have hc : c ∈ ['=', '!', '<', '>', ':'] := by simpa [isOperatorChar] using ho
  simp only [List.mem_cons, List.not_mem_nil, or_false] at hc
  rcases hc with rfl | rfl | rfl | rfl | rfl <;> exact absurd h (by decide)

/-- A word is one run if the text cannot go on with it. -/
lemma lex_word {w : List Char} (hne : w ≠ []) (hw : ∀ c ∈ w, isWordChar c) (hb : Breaks rest) :
    lex bound n (w ++ rest) = lexemes bound n (w :: runs rest) := by
  have hl : w.getLast?.all fun c => !isOperatorChar c := by
    rw [Option.all_eq_true]
    intro c hc
    rw [isOperatorChar_of_isWordChar (hw c (List.mem_of_getLast? hc))]
    rfl
  have hs : runs w = [w] := runs_word hne fun c hc d hd => by simp [joins, hw c hc, hw d hd]
  rw [lex_append_breaks hl hb, hs, List.singleton_append]

/-- A character of names is one of words. -/
lemma isWordChar_of_isNameChar {c : Char} (h : isNameChar c) : isWordChar c := by
  simp [isWordChar, h]

/-- An identifier has characters, all of them plain. -/
lemma chars_of_isIdentifier {name : String} (h : isIdentifier name) :
    ∃ c cs, name.toList = c :: cs ∧ ∀ d ∈ c :: cs, isNameChar d := by
  simp only [isIdentifier, isPlain, Bool.and_eq_true, decide_eq_true_eq, List.all_eq_true] at h
  obtain ⟨⟨hne, hp⟩, -⟩ := h
  cases e : name.toList with
  | nil => exact absurd (String.toList_eq_nil_iff.mp e) hne
  | cons c cs => exact ⟨c, cs, rfl, e ▸ hp⟩

/-- An identifier marks no place. -/
lemma place?_name {c : Char} (cs : List Char) (h : isNameChar c) : place? n (c :: cs) = none := by
  -- neither mark is a plain character
  unfold place?
  split
  · rename_i e
    cases e
    exact absurd h (by decide)
  · rename_i e
    cases e
    exact absurd h (by decide)
  · rfl

/-- An identifier is read as a name. -/
lemma lex_name {name : String} (h : isIdentifier name) (hb : Breaks rest) :
    lex bound n (name.toList ++ rest) = .name name :: lex bound n rest := by
  obtain ⟨c, cs, hcs, hp⟩ := chars_of_isIdentifier h
  have hc : isNameChar c := hp c List.mem_cons_self
  have hblank : c :: cs ≠ [' '] := by
    intro e
    cases e
    exact absurd hc (by decide)
  have hs : String.ofList (c :: cs) = name := by rw [← hcs, String.ofList_toList]
  rw [hcs, lex_word (by simp) (fun d hd => isWordChar_of_isNameChar (hp d hd)) hb, lexemes,
    place?_name cs hc]
  simp [hblank, wordLexeme, hs, h, lex]

/-- The lexemes of a type that is said of an expression. -/
def castLexemes (type : String) : List Lexeme := [.fixed "::", .name type]

/-- A type is read with the sign before it. -/
lemma lex_cast {type : String} (h : isIdentifier type) (hb : Breaks rest) :
    lex bound n (("::" ++ type).toList ++ rest) = castLexemes type ++ lex bound n rest := by
  obtain ⟨c, cs, hcs, hp⟩ := chars_of_isIdentifier h
  have hc : isOperatorChar c = false :=
    isOperatorChar_of_isWordChar (isWordChar_of_isNameChar (hp c List.mem_cons_self))
  have hr : runs ("::".toList ++ (type.toList ++ rest)) =
      [':', ':'] :: runs (type.toList ++ rest) := by
    rw [runs_append]
    · rfl
    · intro b hb d hd
      obtain rfl : ':' = b := by simpa using hb
      obtain rfl : c = d := by simpa [hcs] using hd
      simp [joins, hc, show isWordChar ':' = false from rfl]
  rw [String.toList_append, List.append_assoc, lex, hr]
  show .fixed "::" :: lex bound n (type.toList ++ rest) = _
  rw [lex_name h hb]
  rfl

/-! ### Numbers and placeholders -/

/-- The text of a natural number is made of digits. -/
lemma isDigit_of_mem_toString {i : Nat} {c : Char} (h : c ∈ (toString i).toList) : c.isDigit := by
  rw [Nat.toString_eq_repr, Nat.toList_repr] at h
  exact Nat.isDigit_of_mem_toDigits (by decide) (Nat.le_refl 10) h

/-- The text of a natural number is not empty. -/
lemma toString_ne_nil (i : Nat) : (toString i).toList ≠ [] := by
  rw [Nat.toString_eq_repr, Nat.toList_repr]
  exact Nat.toDigits_ne_nil

/-- The text of a number spells it. -/
lemma number?_toString (i : Nat) : number? (toString i).toList = some i := by
  have hd : (toString i).toList.all Char.isDigit :=
    List.all_eq_true.mpr fun c hc => isDigit_of_mem_toString hc
  have he : (toString i).toList.isEmpty = false := List.isEmpty_eq_false_iff.mpr (toString_ne_nil i)
  rw [number?, hd, he, Nat.toString_eq_repr, Nat.toList_repr, Nat.ofDigitChars_ten_toDigits]
  rfl

/-- A digit may stand in a name. -/
lemma isNameChar_of_isDigit {c : Char} (h : c.isDigit) : isNameChar c := by
  simp [isNameChar, Char.isAlphanum, h]

/-- The text of a number is an identifier. -/
lemma isIdentifier_toString (i : Nat) : isIdentifier (toString i) := by
  have hne : toString i ≠ "" := fun e => toString_ne_nil i (by rw [e]; rfl)
  have hp : isPlain (toString i) :=
    List.all_eq_true.mpr fun c hc => isNameChar_of_isDigit (isDigit_of_mem_toString hc)
  have hk : keywords.contains (toString i) = false := by
    -- every keyword has a letter
    rw [← Bool.not_eq_true, List.contains_iff_mem]
    intro hk
    have ha : ∀ s ∈ keywords, s.toList.any fun c => !c.isDigit := by decide
    obtain ⟨c, hc, hd⟩ := List.any_eq_true.mp (ha _ hk)
    rw [isDigit_of_mem_toString hc] at hd
    cases hd
  rw [isIdentifier, hp, hk, decide_eq_true hne]
  rfl

/-- The lexemes that say the type of a bound value. -/
def Dialect.typeLexemes : Dialect → Value → List Lexeme
  | .postgres, .number _ => castLexemes "float8"
  | .postgres, .string _ => castLexemes "text"
  | _, _ => []

/-- The run of a placeholder becomes the value it stands for. -/
lemma lexemes_place {run : List Char} {rs : List (List Char)} {v : Value}
    (hp : place? n run = some n) (h : bound[n]? = some v) :
    lexemes bound n (run :: rs) = .value v :: lexemes bound (n + 1) rs := by
  rw [lexemes, hp]
  simp [h]

/-- A placeholder with a number is read as the value it stands for. -/
lemma lex_numbered {v : Value} (h : bound[n]? = some v) (hb : Breaks rest) :
    lex bound n (("$" ++ toString (n + 1)).toList ++ rest) = .value v :: lex bound (n + 1) rest := by
  have e : ("$" ++ toString (n + 1)).toList = '$' :: (toString (n + 1)).toList := by
    rw [String.toList_append]
    rfl
  have hp : place? n ('$' :: (toString (n + 1)).toList) = some n := by
    rw [place?, number?_toString]
  have hw : ∀ c ∈ '$' :: (toString (n + 1)).toList, isWordChar c := by
    intro c hc
    rcases List.mem_cons.mp hc with rfl | hc
    · decide
    · exact isWordChar_of_isNameChar (isNameChar_of_isDigit (isDigit_of_mem_toString hc))
  rw [e, lex_word (by simp) hw hb, lexemes_place hp h, lex]

/-- A placeholder is read as the value it stands for, with the type that is said of it. -/
lemma lex_placeholder {d : Dialect} {v : Value} (h : bound[n]? = some v) (hb : Breaks rest) :
    lex bound n ((d.placeholder n v).toList ++ rest) =
      .value v :: d.typeLexemes v ++ lex bound (n + 1) rest := by
  have hmark : lex bound n ("?".toList ++ rest) = .value v :: lex bound (n + 1) rest := by
    rw [lex_append rfl, show runs "?".toList = [['?']] from rfl, List.singleton_append,
      lexemes_place rfl h, lex]
  have htyped (type : String) (ht : isIdentifier type) :
      lex bound n (("$" ++ toString (n + 1) ++ ("::" ++ type)).toList ++ rest) =
        .value v :: castLexemes type ++ lex bound (n + 1) rest := by
    have hsign : Breaks (("::" ++ type).toList ++ rest) := by
      rw [String.toList_append]
      rintro c ⟨⟩
      rfl
    rw [String.toList_append, List.append_assoc, lex_numbered h hsign, lex_cast ht hb]
    rfl
  cases d with
  | mysql => exact hmark
  | duckdb => exact hmark
  | postgres =>
    cases v with
    | number x => exact htyped "float8" (by decide)
    | string s => exact htyped "text" (by decide)
    | null => exact lex_numbered h hb
    | boolean b => exact lex_numbered h hb
    | array items => exact lex_numbered h hb
    | object members => exact lex_numbered h hb

end Lex

end GridRows.Sql
