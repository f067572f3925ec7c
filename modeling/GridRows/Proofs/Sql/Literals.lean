import GridRows.Proofs.Json.Number
import GridRows.Proofs.Sql.Quoting
import Mathlib.Data.List.Forall2

/-!
# Literals of values

What stands between quotes in the literal of a value.  A string is quoted, and so is an object, as its
compact text; MySQL does the same with an array, where the other dialects list the literals of the items.
The commas of a list keep them apart, so a literal is read by itself and the text behind it is read from
outside of quotes (`closed_literal`).

The main statement is `literals_closed`: for values of any nesting the literals that the lexer finds have
the texts of the value.
-/

namespace GridRows

namespace Json

mutual

/-- The values that an array is made of at any depth of arrays; any other value is made of itself. -/
def Value.flattened : Value → List Value
  | .array items => flattenedItems items
  | v => [v]

/-- The values that the items of an array are made of. -/
def flattenedItems : List Value → List Value
  | [] => []
  | item :: rest => item.flattened ++ flattenedItems rest

end

/-- What items are made of is what each is made of, in order. -/
lemma flattenedItems_eq (items : List Value) :
    flattenedItems items = items.flatMap Value.flattened := by
  induction items with
  | nil => rfl
  | cons item items ih => rw [flattenedItems, ih, List.flatMap_cons]

/-- The text that a value other than an array has between quotes, if it is quoted. -/
def Value.quotedText? : Value → Option String
  | .string s => some s
  | .object members => some (Value.object members).text
  | _ => none

end Json

open Json (Value)

namespace Sql

/-- The text of a literal. -/
def Item.literal? : Item → Option String
  | .other _ => none
  | .literal s => some s

/-- There are no literals among other characters. -/
lemma Item.filterMap_other (cs : List Char) : (cs.map Item.other).filterMap literal? = [] := by
  simp [List.filterMap_map, Function.comp_def, literal?]

namespace Dialect

/-! ## Texts without quotes -/

/-- A fixed text without either quote holds no quote of the dialect. -/
lemma mark_not_fixed (d : Dialect) {s : String} (h : '"' ∉ s.toList ∧ '\x27' ∉ s.toList) :
    d.mark ∉ s.toList := by
  cases d with
  | mysql => exact h.1
  | duckdb => exact h.2
  | postgres => exact h.2

/-- A quote is no character of a number. -/
lemma mark_not_numeral (d : Dialect) : ¬ Json.IsNumeral d.mark := by
  unfold Json.IsNumeral
  cases d <;> decide

/-- The literal of a number holds no quote. -/
lemma mark_not_number (d : Dialect) (n : Json.Number) :
    d.mark ∉ (d.literal (.number n)).toList := by
  rw [literal, String.toList_ofList]
  exact fun hmark => d.mark_not_numeral (n.text_chars _ hmark)

/-! ## Texts that are read by themselves -/

/--
The text is read by itself, whatever follows it but a quote, and the literals in it have the given texts.
-/
def Closed (d : Dialect) (text : String) (texts : List String) : Prop :=
  ∃ items, d.Reads text.toList items ∧ items.filterMap Item.literal? = texts

variable {d : Dialect} {s t : String} {ss ts : List String}

/-- A text without quotes is read by itself, and has no literals. -/
lemma Closed.plain (h : d.mark ∉ s.toList) : d.Closed s [] :=
  ⟨_, fun rest _ => d.scanFrom_other h rest, Item.filterMap_other _⟩

/-- A quoted text is read by itself as its one literal. -/
lemma Closed.quote (s : String) : d.Closed (d.quote s) [s] := ⟨_, d.reads_quote s, rfl⟩

/-- Before a text anything without quotes may stand. -/
lemma Closed.behind (ht : d.Closed t ts) (h : d.mark ∉ s.toList) : d.Closed (s ++ t) ts := by
  obtain ⟨items, hreads, rfl⟩ := ht
  refine ⟨s.toList.map .other ++ items, fun rest hrest => ?_, ?_⟩
  · rw [String.toList_append, List.append_assoc, d.scanFrom_other h, hreads _ hrest,
      Option.map_map]
    simp [Function.comp_def]
  · rw [List.filterMap_append, Item.filterMap_other, List.nil_append]

/-- What follows a text must not go on with a literal at its end. -/
lemma Closed.append (hs : d.Closed s ss) (ht : d.Closed t ts)
    (hhead : t.toList.head? ≠ some d.mark) : d.Closed (s ++ t) (ss ++ ts) := by
  obtain ⟨items, hreads, rfl⟩ := hs
  obtain ⟨items', hreads', rfl⟩ := ht
  refine ⟨items ++ items', fun rest hrest => ?_, List.filterMap_append ..⟩
  have hnext : (t.toList ++ rest).head? ≠ some d.mark := by
    cases htext : t.toList with
    | nil => exact hrest
    | cons c cs => rwa [htext] at hhead
  rw [String.toList_append, List.append_assoc, hreads _ hnext, hreads' _ hrest, Option.map_map]
  simp [Function.comp_def]

/-- Between the parts of a list stand commas, so no literal meets the next one. -/
lemma Closed.listed {parts : List String} {texts : List (List String)}
    (h : List.Forall₂ d.Closed parts texts) : d.Closed (listed parts) texts.flatten := by
  have hcomma : d.mark ∉ ", ".toList := d.mark_not_fixed (by decide)
  induction h with
  | nil => exact .plain List.not_mem_nil
  | @cons part found parts texts hpart hparts ih =>
    cases hparts with
    | nil => exact (List.flatten_singleton (l := found)).symm ▸ hpart
    | @cons next _ rest =>
      have hhead : (", " ++ Sql.listed (next :: rest)).toList.head? ≠ some d.mark := by
        rw [String.toList_append]
        exact fun hc => hcomma (Option.some.inj hc ▸ List.mem_cons_self)
      rw [Sql.listed, String.append_assoc, List.flatten_cons]
      · exact hpart.append (ih.behind hcomma) hhead
      · exact nofun

/-- From a text that is read by itself the lexer goes on from outside of literals. -/
lemma Closed.scan (h : d.Closed s ts) :
    ∃ items, d.scan s = some items ∧ items.filterMap Item.literal? = ts ∧
      ∀ rest : String, rest.toList.head? ≠ some d.mark →
        d.scan (s ++ rest) = (d.scan rest).map (items ++ ·) := by
  obtain ⟨items, hreads, htexts⟩ := h
  have hrest (rest : String) (hhead : rest.toList.head? ≠ some d.mark) :
      d.scan (s ++ rest) = (d.scan rest).map (items ++ ·) := by
    rw [Dialect.scan, String.toList_append, hreads _ hhead]
    rfl
  have hend : d.scan s = some items := by
    rw [← String.append_empty (s := s), hrest "" nofun]
    exact congrArg some (List.append_nil items)
  exact ⟨items, hend, htexts, hrest⟩

/-- A text has no other literals than those that are read in it. -/
lemma Closed.unique (h : d.Closed s ss) (h' : d.Closed s ts) : ss = ts := by
  obtain ⟨items, hscan, rfl, -⟩ := h.scan
  obtain ⟨items', hscan', rfl, -⟩ := h'.scan
  cases hscan.symm.trans hscan'
  rfl

/-! ## Values of any nesting -/

/-- The texts between quotes in the literal of a value.  MySQL quotes an array as a whole. -/
def quotedTexts (d : Dialect) (v : Value) : List String :=
  match v, d with
  | .array items, .mysql => [(Value.array items).text]
  | v, _ => v.flattened.filterMap Value.quotedText?

/-- Where arrays are lists, the texts of an array are those of its items. -/
lemma quotedTexts_items (hd : d ≠ .mysql) (items : List Value) :
    d.quotedTexts (.array items) = (items.map d.quotedTexts).flatten := by
  have heach (v : Value) : d.quotedTexts v = v.flattened.filterMap Value.quotedText? := by
    cases d with
    | mysql => exact absurd rfl hd
    | duckdb | postgres => cases v <;> rfl
  rw [heach, Value.flattened, Json.flattenedItems_eq, List.filterMap_flatMap, List.flatMap_def]
  exact congrArg List.flatten (List.map_congr_left fun v _ => (heach v).symm)

mutual

/-- The literal of a value is read by itself, and the literals in it have the texts of the value. -/
lemma closed_literal (d : Dialect) (v : Value) : d.Closed (d.literal v) (d.quotedTexts v) :=
  match v with
  | .null => .plain (s := "NULL") (d.mark_not_fixed (by decide))
  | .boolean true => .plain (s := "true") (d.mark_not_fixed (by decide))
  | .boolean false => .plain (s := "false") (d.mark_not_fixed (by decide))
  | .number n => .plain (d.mark_not_number n)
  | .string s => .quote s
  | .object members => .quote _
  | .array items => by
    have hitems := Closed.listed (closed_literals d items)
    cases d with
    | mysql => exact .quote _
    | duckdb => rwa [← quotedTexts_items (d := .duckdb) nofun] at hitems
    | postgres => rwa [← quotedTexts_items (d := .postgres) nofun] at hitems

/-- The literals of the items of an array are read by themselves, each of them. -/
lemma closed_literals (d : Dialect) (items : List Value) :
    List.Forall₂ d.Closed (d.literals items) (items.map d.quotedTexts) :=
  match items with
  | [] => .nil
  | item :: rest => .cons (closed_literal d item) (closed_literals d rest)

end

/--
A text that goes on with anything but a quote after the literal of a value is read from outside of
literals there.  The literals before that have the text of a string; the compact text of an object, and in
MySQL of an array; elsewhere those of the strings and objects that an array is made of at any depth; and
there are none in other values.  So no two strings have the same literal.
-/
theorem literals_closed (d : Dialect) :
    (∀ v : Value, ∃ items, d.scan (d.literal v) = some items ∧
      items.filterMap Item.literal? = d.quotedTexts v ∧
      ∀ rest : String, rest.toList.head? ≠ some d.mark →
        d.scan (d.literal v ++ rest) = (d.scan rest).map (items ++ ·)) ∧
    Function.Injective fun s : String => d.literal (.string s) := by
  refine ⟨fun v => (d.closed_literal v).scan, fun s t h => ?_⟩
  have hs : d.Closed (d.literal (.string s)) [s] := d.closed_literal (.string s)
  have ht : d.Closed (d.literal (.string s)) [t] :=
    (show d.literal (.string s) = d.literal (.string t) from h) ▸ d.closed_literal (.string t)
  exact List.singleton_inj.mp (hs.unique ht)

/-- A note, and in an array within the array a country with a backslash at the end of its code. -/
def remarks : Value :=
  .array [.string "it's", .array [.number (.ofInt64 8), .object [("code", .string "c:\\")]]]

/-- DuckDB is given three items of which two are quoted, MySQL the text of the array. -/
theorem literals_closed_remarks :
    (∃ items, Dialect.duckdb.scan (Dialect.duckdb.literal remarks ++ " limit 6") =
        (Dialect.duckdb.scan " limit 6").map (items ++ ·) ∧
      items.filterMap Item.literal? = ["it's", "\x7b\"code\":\"c:\\\\\"\x7d"]) ∧
    ∃ items, Dialect.mysql.scan (Dialect.mysql.literal remarks ++ " limit 6") =
        (Dialect.mysql.scan " limit 6").map (items ++ ·) ∧
      items.filterMap Item.literal? = ["[\"it's\",[8,\x7b\"code\":\"c:\\\\\"\x7d]]"] := by
  obtain ⟨items, -, htexts, hrest⟩ := (literals_closed .duckdb).1 remarks
  obtain ⟨items', -, htexts', hrest'⟩ := (literals_closed .mysql).1 remarks
  exact ⟨⟨items, hrest " limit 6" (by decide), htexts.trans (by decide)⟩,
    items', hrest' " limit 6" (by decide), htexts'.trans (by decide)⟩

end Dialect

end Sql

end GridRows
