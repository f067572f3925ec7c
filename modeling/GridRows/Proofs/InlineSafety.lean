import GridRows.Proofs.Independence
import GridRows.Proofs.Sql.Literals

/-!
# Inline statements

Where the values of an inline statement stand in its text.  A template is clean if its texts hold no
quote and no two of its gaps touch, so the literal in a gap never meets a quote after it; a statement
with plain names has a clean template (`Query.template_clean`).

The main statement is `Request.inline_literals`: the lexer of string literals finds the texts of the
request and nothing else, and what it finds outside of them does not depend on these texts.
-/

namespace GridRows

open Json (Value)

namespace Sql

/-! ## Clean templates -/

/-- Whether nothing stands before the first gap. -/
def Template.opensWithGap : Template → Bool
  | [] => false
  | .text s :: t => s = "" && opensWithGap t
  | .gap _ :: _ => true

/-- Texts without quotes, and gaps for operands, no two of which touch. -/
inductive Clean (d : Dialect) : Template → Prop where
  | nil : Clean d []
  | text {s t} : d.mark ∉ s.toList → Clean d t → Clean d (.text s :: t)
  | gap {v t} : Operand v → Template.opensWithGap t = false → Clean d t → Clean d (.gap v :: t)

/-- What is read of a literal: a text as such, any other value as it is written. -/
def Dialect.valueItems (d : Dialect) : Value → List Item
  | .string s => [.literal s]
  | v => (d.literal v).toList.map .other

/-- What is read of a piece with its gap filled. -/
def Piece.items (d : Dialect) : Piece → List Item
  | .text s => s.toList.map .other
  | .gap v => d.valueItems v

section Clean

variable {d : Dialect}

/-- A template opens with a gap as its front part does, if the rest does not open with one. -/
lemma Template.opensWithGap_append {t u : Template} (h : opensWithGap u = false) :
    opensWithGap (t ++ u) = opensWithGap t := by
  induction t with
  | nil => exact h
  | cons p t ih => cases p <;> simp [opensWithGap, ih]

/-- Clean templates may follow each other if the second does not open with a gap. -/
lemma Clean.append {t u : Template} (ht : Clean d t) (hu : Clean d u)
    (hg : Template.opensWithGap u = false) : Clean d (t ++ u) := by
  induction ht with
  | nil => exact hu
  | text hs _ ih => exact .text hs ih
  | gap hv hn _ ih => exact .gap hv ((Template.opensWithGap_append hg).trans hn) ih

/-- The literal of an operand is read by itself. -/
lemma Dialect.reads_operand {v : Value} (h : Operand v) :
    d.Reads (d.literal v).toList (d.valueItems v) := by
  cases h with
  | text s => exact d.reads_quote s
  | number n => exact fun rest _ => d.scanFrom_other (d.mark_not_number n) rest

/-- A clean template that does not open with a gap does not begin with a quote. -/
lemma Clean.head_ne {t : Template} {fill n} (h : Clean d t)
    (hg : Template.opensWithGap t = false) : (t.fillFrom fill n).toList.head? ≠ some d.mark := by
  induction h with
  | nil => exact nofun
  | @text s t hs _ ih =>
    rw [Template.fillFrom, String.toList_append]
    cases e : s.toList with
    | nil =>
      have e : s = "" := String.toList_eq_nil_iff.mp e
      subst e
      exact ih (by simpa [Template.opensWithGap] using hg)
    | cons c cs =>
      intro hc
      rw [e] at hs
      exact hs (by simpa using .inl (Option.some.inj hc).symm)
  | gap _ _ _ _ => cases hg

/-- A clean template filled with literals is read piece by piece, and its end is outside of them. -/
lemma Clean.scan_fill {t : Template} (h : Clean d t) (n : Nat) :
    d.scan (t.fillFrom (fun _ v => d.literal v) n) = some (t.flatMap (Piece.items d)) := by
  unfold Dialect.scan
  induction h generalizing n with
  | nil => rfl
  | text hs _ ih =>
    rw [Template.fillFrom, String.toList_append, d.scanFrom_other hs, ih]
    rfl
  -- no gap follows this one, so what does cannot begin with a quote and go on with the literal
  | gap hv hg h ih =>
    rw [Template.fillFrom, String.toList_append, Dialect.reads_operand hv _ (h.head_ne hg), ih]
    rfl

/-! ## The templates of statements are clean -/

/-- A text that keeps gaps apart: it is not empty and holds no quote. -/
def Dialect.Separates (d : Dialect) (s : String) : Prop := s ≠ "" ∧ d.mark ∉ s.toList

/-- Clean templates stay clean when a separator joins them. -/
lemma Clean.joined {separator : String} {ts : List Template} (hs : d.Separates separator)
    (h : ∀ t ∈ ts, Clean d t) : Clean d (Template.joined separator ts) := by
  induction ts with
  | nil => exact .nil
  | cons t ts ih =>
    obtain ⟨ht, hts⟩ := List.forall_mem_cons.mp h
    cases ts with
    | nil => exact ht
    | cons u ts => exact ht.append (.text hs.2 (ih hts)) (by simp [Template.opensWithGap, hs.1])

/-- A clause is clean, and it does not open with a gap. -/
lemma Clean.clause {keyword separator : String} {ts : List Template} (hk : d.Separates keyword)
    (hs : d.Separates separator) (h : ∀ t ∈ ts, Clean d t) :
    Clean d (Template.clause keyword separator ts) ∧
      Template.opensWithGap (Template.clause keyword separator ts) = false := by
  unfold Template.clause
  split
  · exact ⟨.nil, rfl⟩
  · exact ⟨.text hk.2 (.joined hs h), by simp [Template.opensWithGap, hk.1]⟩

/-- Texts without quotes are joined to a text without quotes. -/
lemma Dialect.mark_not_append {s t : String} (hs : d.mark ∉ s.toList) (ht : d.mark ∉ t.toList) :
    d.mark ∉ (s ++ t).toList := by
  rw [String.toList_append]
  exact fun h => (List.mem_append.mp h).elim hs ht

/-- An expression has a clean template if its names hold no quotes and its literals are operands. -/
lemma Expr.template_clean {e : Expr} (hn : ∀ name ∈ e.names, d.mark ∉ name.toList)
    (hl : ∀ v ∈ e.literals, Operand v) : Clean d (e.template d) := by
  induction e with
  | column name => exact .text (hn name (by simp [names])) .nil
  | literal v => exact .gap (hl v (by simp [literals])) rfl .nil
  | binary op left right ihl ihr =>
    have hleft := ihl (fun n h => hn n (List.mem_append_left _ h))
      (fun v h => hl v (List.mem_append_left _ h))
    have hright := ihr (fun n h => hn n (List.mem_append_right _ h))
      (fun v h => hl v (List.mem_append_right _ h))
    have hop : d.mark ∉ (" " ++ op.spelling ++ " ").toList :=
      d.mark_not_fixed (by cases op <;> decide)
    exact hleft.append (.text hop hright) (by simp [Template.opensWithGap])
  | nested inner ih =>
    have h := (ih hn hl).append (.text (d.mark_not_fixed (s := ")") (by decide)) .nil) rfl
    exact .text (d.mark_not_fixed (by decide)) h
  | aggregate function inner ih =>
    have h := (ih (fun n h => hn n (List.mem_cons_of_mem _ h)) hl).append
      (.text (d.mark_not_fixed (s := ")") (by decide)) .nil) rfl
    exact .text (d.mark_not_append (hn function List.mem_cons_self) (d.mark_not_fixed (by decide))) h
  | asText inner ih =>
    have hc : d.mark ∉ d.castSuffix.toList := by cases d <;> decide
    exact (ih hn hl).append (.text hc .nil) (by simp [Template.opensWithGap])
  | always => exact .text (d.mark_not_fixed (by decide)) .nil

/-- A selected item is written without quotes if its names have none. -/
lemma SelectItem.template_clean {i : SelectItem} (hn : ∀ name ∈ i.names, d.mark ∉ name.toList)
    (hl : ∀ v ∈ i.expr.literals, Operand v) : Clean d (i.template d) := by
  have he := Expr.template_clean (fun n h => hn n (List.mem_append_left _ h)) hl
  unfold template
  cases e : i.label with
  | none => exact he
  | some name =>
    have hname := hn name (List.mem_append_right _ (by simp [e]))
    have hs := d.mark_not_append (s := " as ") (d.mark_not_fixed (by decide)) hname
    exact he.append (.text hs .nil) (by simp [Template.opensWithGap])

/-- A sort item is written without quotes if its column has none. -/
lemma Dialect.mark_not_sortText {i : SortItem} (h : d.mark ∉ i.column.toList) :
    d.mark ∉ (sortText i).toList := by
  have hd : d.mark ∉ i.direction.name.toList := by cases d <;> cases i.direction <;> decide
  exact d.mark_not_append (d.mark_not_append h (d.mark_not_fixed (by decide))) hd

/-- A count is written without quotes if its keyword has none. -/
lemma Dialect.mark_not_countText {keyword : String} (h : d.mark ∉ keyword.toList)
    (n : Option Nat) : d.mark ∉ (countText keyword n).toList := by
  cases n with
  | none => simp [countText]
  | some n =>
    refine d.mark_not_append h fun hm => d.mark_not_numeral ?_
    rw [Nat.toString_eq_repr, Nat.toList_repr] at hm
    exact Json.Number.isNumeral_digits hm

/-- A statement has a clean template if its names hold no quotes and its literals are operands. -/
lemma Query.template_clean {q : Query} (hn : ∀ name ∈ q.names, d.mark ∉ name.toList)
    (hl : ∀ v ∈ q.literals, Operand v) : Clean d (q.template d) := by
  obtain ⟨ht, hns, hnf, hng, hno⟩ := Query.forall_names hn
  obtain ⟨hls, hlf, hlg⟩ := Query.forall_literals hl
  have sep {s : String} (hne : s ≠ "") (h : '"' ∉ s.toList ∧ '\x27' ∉ s.toList) :
      d.Separates s := ⟨hne, d.mark_not_fixed h⟩
  have comma : d.Separates ", " := sep (by decide) (by decide)
  have hs : Clean d (selectTemplate d q.select) := by
    unfold selectTemplate
    split
    · exact .text (d.mark_not_fixed (by decide)) .nil
    · refine (Clean.clause (sep (by decide) (by decide)) comma fun t h => ?_).1
      obtain ⟨i, hi, rfl⟩ := List.mem_map.mp h
      exact i.template_clean (hns i hi) (hls i hi)
  have hf : ∀ t ∈ q.filters.map (·.template d), Clean d t := by
    intro t h
    obtain ⟨e, he, rfl⟩ := List.mem_map.mp h
    exact e.template_clean (hnf e he) (hlf e he)
  have hg : ∀ t ∈ q.groupBy.map (·.template d), Clean d t := by
    intro t h
    obtain ⟨e, he, rfl⟩ := List.mem_map.mp h
    exact e.template_clean (hng e he) (hlg e he)
  have ho : ∀ t ∈ q.orderBy.map (fun i => [Piece.text (sortText i)]), Clean d t := by
    intro t h
    obtain ⟨i, hi, rfl⟩ := List.mem_map.mp h
    exact .text (d.mark_not_sortText (hno i hi)) .nil
  -- every clause but the first begins with its keyword, so the clauses may follow each other
  have hf := Clean.clause (sep (s := " where ") (by decide) (by decide))
    (sep (s := " and ") (by decide) (by decide)) hf
  have hg := Clean.clause (sep (s := " group by ") (by decide) (by decide)) comma hg
  have ho := Clean.clause (sep (s := " order by ") (by decide) (by decide)) comma ho
  have hc : Clean d [.text (countText " limit " q.limit), .text (countText " offset " q.offset)] :=
    .text (d.mark_not_countText (d.mark_not_fixed (by decide)) _)
      (.text (d.mark_not_countText (d.mark_not_fixed (by decide)) _) .nil)
  have hfrom : d.mark ∉ (" FROM " ++ q.table).toList :=
    d.mark_not_append (d.mark_not_fixed (by decide)) ht
  unfold template
  refine (((hs.append (.text hfrom hf.1) ?_).append hg.1 hg.2).append ho.1 ho.2).append hc ?_
  · simp [Template.opensWithGap]
  · simp [Template.opensWithGap]

end Clean

/-! ## What is read of a template -/

/-- A character outside literals; `none` stands for a literal. -/
def Item.outside : Item → Option Char
  | .other c => some c
  | .literal _ => none

end Sql

/-- The text that a string is. -/
def Json.Value.string? : Value → Option String
  | .string s => some s
  | _ => none

namespace Sql

/-- What is read of a value is a literal with the text of a string, or no literal. -/
lemma Dialect.literals_valueItems (d : Dialect) (v : Value) :
    (d.valueItems v).filterMap Item.literal? = [v].filterMap Value.string? := by
  cases v with
  | string s => rfl
  | _ => exact Item.filterMap_other _

/-- The literals that are read are the texts among the values of the gaps. -/
lemma Template.literals_items (d : Dialect) (t : Template) :
    (t.flatMap (Piece.items d)).filterMap Item.literal? = t.values.filterMap Value.string? := by
  induction t with
  | nil => rfl
  | cons p t ih =>
    rw [List.flatMap_cons, List.filterMap_append, ih]
    cases p with
    | text s =>
      rw [Piece.items, Item.filterMap_other]
      rfl
    | gap v =>
      rw [Piece.items, d.literals_valueItems, ← List.filterMap_append]
      rfl

/-- What is read outside literals does not depend on the texts in the gaps. -/
lemma Template.outside_items (d : Dialect) (t : Template) :
    ((t.map (Piece.mapGap (Value.blanked id))).flatMap (Piece.items d)).map Item.outside =
      (t.flatMap (Piece.items d)).map Item.outside := by
  have h (p : Piece) : ((p.mapGap (Value.blanked id)).items d).map Item.outside =
      (p.items d).map Item.outside := by
    cases p with
    | text s => rfl
    | gap v => cases v <;> rfl
  rw [List.flatMap_map, List.map_flatMap, List.map_flatMap]
  exact congrArg (List.flatMap · t) (funext h)

end Sql

/-! ## Inline statements -/

open Sql (Clean Dialect Item Piece Query Template isPlain)

/-- Blanking does not change the names of a request. -/
lemma Request.names_blanked {g} (r : Request) : (r.blanked g).names = r.names := by
  unfold names
  rw [filters_blanked]
  simp [blanked, sorts, Function.comp_def]

/-- A plain name holds no quote. -/
lemma Sql.Dialect.mark_not_plain {d : Dialect} {name : String} (h : isPlain name) :
    d.mark ∉ name.toList := by
  intro hm
  have hc := List.all_eq_true.mp h _ hm
  cases d <;> exact absurd hc (by decide)

/-- What is read of the inline statement of a valid request with plain names. -/
lemma Request.scan_inline (d : Dialect) {r : Request} {w : PageWindow}
    (plain : ∀ name ∈ r.names, isPlain name) :
    d.scan ((r.query w).render d .inline).sql =
      some (((r.query w).template d).flatMap (Piece.items d)) := by
  have h : Clean d ((r.query w).template d) :=
    Query.template_clean (fun _ h => Dialect.mark_not_plain (plain _ (names_query h)))
      (fun _ h => literals_query h)
  rw [Query.render_inline]
  exact h.scan_fill 0

/--
The inline statement of a valid request with plain names ends outside string literals.  The literals
in it are the texts that the parameterized statement binds, in their order.  If other texts take their
place, the characters outside literals stay as they are.
-/
theorem Request.inline_literals (d : Dialect) {r : Request} (valid : r.validate = .ok ())
    (plain : ∀ name ∈ r.names, isPlain name) :
    ∃ sql s items, r.inlineSql d = .ok sql ∧ r.compileParameterized d = .ok s ∧
      d.scan sql = some items ∧
      items.filterMap Item.literal? = s.params.filterMap Value.string? ∧
      ∀ r' : Request, r.withoutTexts = r'.withoutTexts →
        ∃ sql' items', r'.inlineSql d = .ok sql' ∧ d.scan sql' = some items' ∧
          items'.map Item.outside = items.map Item.outside := by
  obtain ⟨_, w, hw⟩ := validate_inv valid
  have hp := plan_of_valid valid hw
  refine ⟨_, _, _, inlineSql_of_plan hp d, compile_of_plan hp d _, scan_inline d plain, ?_, ?_⟩
  · rw [Template.literals_items, Query.values_template, Plan.statement, Query.render_parameterized]
  · intro r' agree
    unfold withoutTexts at agree
    have plain' : ∀ name ∈ r'.names, isPlain name := by
      rw [← names_blanked (g := id), ← agree, names_blanked]
      exact plain
    have e := congrArg (Query.template d) (query_congr agree w)
    rw [Query.template_mapLiterals, Query.template_mapLiterals] at e
    refine ⟨_, _, inlineSql_of_plan (plan_congr agree valid hw) d, scan_inline d plain', ?_⟩
    rw [← Template.outside_items, ← e, Template.outside_items]

/-- A key that ends in a backslash, and a filter for a text of quotes. -/
theorem Request.inline_literals_hostile :
    (medals "c:\\" "\"\" or \"" 20 30).validate = .ok () ∧
    (∀ name ∈ (medals "c:\\" "\"\" or \"" 20 30).names, isPlain name) ∧
    ∃ sql s items, (medals "c:\\" "\"\" or \"" 20 30).inlineSql .mysql = .ok sql ∧
      (medals "c:\\" "\"\" or \"" 20 30).compileParameterized .mysql = .ok s ∧
      Dialect.mysql.scan sql = some items ∧
      items.filterMap Item.literal? = s.params.filterMap Value.string? ∧
      ∀ r' : Request, (medals "c:\\" "\"\" or \"" 20 30).withoutTexts = r'.withoutTexts →
        ∃ sql' items', r'.inlineSql .mysql = .ok sql' ∧ Dialect.mysql.scan sql' = some items' ∧
          items'.map Item.outside = items.map Item.outside :=
  ⟨rfl, by decide, inline_literals .mysql rfl (by decide)⟩

end GridRows
