import GridRows.Sql.Dialect
import Mathlib.Tactic.Lemma

/-!
# String literals in a text

A lexer that reads a text from left to right and tells the characters inside string literals from
those outside.  In MySQL a literal stands between double quotes and a backslash escapes the character
after it; in the other dialects a literal stands between single quotes and a backslash is a character
like any other.  In all of them a quote written twice inside a literal is one quote.

`Reads` says how a part of a text is read, whatever follows it but a quote; `reads_quote` says that a
quoted text is read back as one literal, whatever it holds.
-/

namespace GridRows.Sql

/-! ## The lexer -/

/-- What is read from a text: a character outside literals, or the text of a literal. -/
inductive Item where
  | other (c : Char)
  | literal (s : String)
  deriving DecidableEq

/-- Where the lexer stands; inside a literal, with the characters read of it. -/
inductive LexState where
  | outside
  | inside (read : List Char)
  /-- After a backslash inside a literal. -/
  | escaped (read : List Char)
  /-- After a quote inside a literal, which ends it unless another quote follows. -/
  | quoted (read : List Char)

namespace Dialect

/-- The quote around string literals. -/
def mark : Dialect → Char
  | .mysql => '"'
  | _ => '\x27'

/-- Whether a backslash escapes the character after it. -/
def hasEscapes (d : Dialect) : Bool := d = .mysql

/-- What a backslash and the character after it stand for. -/
def unescaped : Char → List Char
  | '0' => ['\x00']
  | 'b' => ['\x08']
  | 'n' => ['\n']
  | 'r' => ['\r']
  | 't' => ['\t']
  | 'Z' => ['\x1a']
  | '%' => ['\\', '%']
  | '_' => ['\\', '_']
  | c => [c]

/-- Reads one character: the next state, and what is complete by now. -/
def lexStep (d : Dialect) : LexState → Char → LexState × List Item
  | .outside, c => if c = d.mark then (.inside [], []) else (.outside, [.other c])
  | .inside read, c =>
    if c = d.mark then (.quoted read, [])
    else if d.hasEscapes ∧ c = '\\' then (.escaped read, [])
    else (.inside (read ++ [c]), [])
  | .escaped read, c => (.inside (read ++ unescaped c), [])
  | .quoted read, c =>
    if c = d.mark then (.inside (read ++ [c]), [])
    else (.outside, [.literal (String.ofList read), .other c])

/-- What is read of a text from a given state; `none` if the text ends inside a literal. -/
def scanFrom (d : Dialect) : LexState → List Char → Option (List Item)
  | .outside, [] => some []
  | .inside _, [] => none
  | .escaped _, [] => none
  | .quoted read, [] => some [.literal (String.ofList read)]
  | s, c :: cs => (scanFrom d (d.lexStep s c).1 cs).map ((d.lexStep s c).2 ++ ·)

/-- What is read of a text; `none` if it ends inside a literal. -/
def scan (d : Dialect) (text : String) : Option (List Item) := d.scanFrom .outside text.toList

/-! ## Quoted texts -/

/-- A character as it stands inside a literal: quotes and characters that escape are doubled. -/
def escapeChar (d : Dialect) (c : Char) : List Char :=
  if c = d.mark ∨ d.hasEscapes ∧ c = '\\' then [c, c] else [c]

/-- A text as it stands inside a literal. -/
def escape (d : Dialect) (cs : List Char) : List Char := cs.flatMap d.escapeChar

/-- Doubling backslashes and then quotes doubles each of both once. -/
lemma doubled_doubled (cs : List Char) :
    doubled '"' (doubled '\\' cs) = Dialect.mysql.escape cs := by
  induction cs with
  | nil => rfl
  | cons c cs ih =>
    unfold doubled escape at ih ⊢
    rw [List.flatMap_cons, List.flatMap_append, ih, List.flatMap_cons]
    congr 1
    by_cases hb : c = '\\'
    · subst hb; rfl
    · by_cases hq : c = '"'
      · subst hq; rfl
      · simp [escapeChar, mark, hb, hq]

/-- A quoted text is the escaped text between quotes. -/
lemma toList_quote (d : Dialect) (s : String) :
    (d.quote s).toList = d.mark :: d.escape s.toList ++ [d.mark] := by
  have h (c : Char) : (if c = '\x27' then [c, c] else [c]) = Dialect.duckdb.escapeChar c := by
    simp [escapeChar, mark, hasEscapes]
  cases d with
  | mysql => rw [quote, String.toList_ofList, doubled_doubled]; rfl
  | duckdb => simp only [quote, String.toList_ofList, doubled, h]; rfl
  | postgres => simp only [quote, String.toList_ofList, doubled, h]; rfl

/-- Inside a literal, an escaped character is read as itself. -/
lemma scanFrom_escapeChar (d : Dialect) (read : List Char) (c : Char) (rest : List Char) :
    d.scanFrom (.inside read) (d.escapeChar c ++ rest) =
      d.scanFrom (.inside (read ++ [c])) rest := by
  -- a quote stands for itself twice over, as does a backslash where it escapes
  by_cases hm : c = d.mark
  · simp [escapeChar, scanFrom, lexStep, hm]
  · by_cases hb : d.hasEscapes ∧ c = '\\'
    · obtain ⟨he, rfl⟩ := hb
      simp [escapeChar, scanFrom, lexStep, hm, he, unescaped]
    · simp [escapeChar, scanFrom, lexStep, hm, hb]

/-- Inside a literal, an escaped text is read as itself. -/
lemma scanFrom_escape (d : Dialect) (read cs rest : List Char) :
    d.scanFrom (.inside read) (d.escape cs ++ rest) = d.scanFrom (.inside (read ++ cs)) rest := by
  induction cs generalizing read with
  | nil => simp [escape]
  | cons c cs ih =>
    unfold escape at ih ⊢
    rw [List.flatMap_cons, List.append_assoc, scanFrom_escapeChar, ih, List.append_assoc]
    rfl

/-- What follows a literal, if it does not go on with a quote, is read from outside. -/
lemma scanFrom_quoted (d : Dialect) (read : List Char) {rest : List Char}
    (h : rest.head? ≠ some d.mark) :
    d.scanFrom (.quoted read) rest =
      (d.scanFrom .outside rest).map (.literal (String.ofList read) :: ·) := by
  cases rest with
  | nil => rfl
  | cons c cs =>
    have hc : c ≠ d.mark := fun e => h (by rw [e]; rfl)
    simp [scanFrom, lexStep, hc, Function.comp_def]

/-- From outside literals, `cs` is read as `items`, whatever follows but a quote. -/
def Reads (d : Dialect) (cs : List Char) (items : List Item) : Prop :=
  ∀ rest, rest.head? ≠ some d.mark →
    d.scanFrom .outside (cs ++ rest) = (d.scanFrom .outside rest).map (items ++ ·)

/-- A quoted text is read as one literal with that text. -/
lemma reads_quote (d : Dialect) (s : String) : d.Reads (d.quote s).toList [.literal s] := by
  intro rest h
  have hm : d.scanFrom (.inside s.toList) (d.mark :: rest) = d.scanFrom (.quoted s.toList) rest := by
    simp [scanFrom, lexStep]
  rw [toList_quote, List.cons_append, List.cons_append, List.append_assoc, scanFrom]
  simp only [lexStep, if_true, List.nil_append, Option.map_id_fun', id]
  rw [scanFrom_escape, List.nil_append, List.singleton_append, hm, scanFrom_quoted d _ h,
    String.ofList_toList]
  rfl

/-- A text without quotes is read as it stands, whatever follows. -/
lemma scanFrom_other (d : Dialect) {cs : List Char} (h : d.mark ∉ cs) (rest : List Char) :
    d.scanFrom .outside (cs ++ rest) =
      (d.scanFrom .outside rest).map (cs.map Item.other ++ ·) := by
  induction cs with
  | nil => simp
  | cons c cs ih =>
    have hc : c ≠ d.mark := fun e => h (e ▸ List.mem_cons_self)
    have hcs : d.mark ∉ cs := fun hm => h (List.mem_cons_of_mem _ hm)
    simp [scanFrom, lexStep, hc, ih hcs, Function.comp_def]

end Dialect

end GridRows.Sql
