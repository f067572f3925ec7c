import GridRows.Postgres.Cell
import GridRows.Proofs.Clauses

/-!
# Placeholders and what is bound to them

The dialect says of every placeholder as which type its value is bound, and the connection chooses the
type of every value that it binds.  The two choices agree on texts and numbers, and the literals of a
planned statement are nothing else (`Request.literals_query`).  That a statement marks nothing but the
places of its values is said on its template, whose texts are free of the mark if the names are.

The main statement is `Request.placeholders_bound`.
-/

namespace GridRows

open Json (Value)
open Postgres (Parameter WireType)
open Sql (Dialect Expr Piece Query SelectItem Template clauseText selectTemplate sortText countText)

/-! ## Templates without a character -/

namespace Sql

/-- The character is in none of the texts of the template. -/
def Template.Avoids (c : Char) (t : Template) : Prop := ∀ s, .text s ∈ t → c ∉ s.toList

namespace Template.Avoids

variable {c : Char} {t u : Template}

/-- A template without pieces avoids every character. -/
lemma nil : Avoids c [] := nofun

/-- A text without the character may be put before a template that avoids it. -/
lemma text {s : String} (hs : c ∉ s.toList) (ht : Avoids c t) : Avoids c (.text s :: t) := by
  intro s' h
  rcases List.mem_cons.mp h with e | h
  · cases e
    exact hs
  · exact ht s' h

/-- A gap may be put before a template that avoids the character. -/
lemma gap {v : Value} (ht : Avoids c t) : Avoids c (.gap v :: t) := by
  intro s h
  rcases List.mem_cons.mp h with e | h
  · cases e
  · exact ht s h

/-- Templates that avoid the character may follow each other. -/
lemma append (ht : Avoids c t) (hu : Avoids c u) : Avoids c (t ++ u) :=
  fun s h => (List.mem_append.mp h).elim (ht s) (hu s)

/-- Templates that avoid the character may be joined by a separator without it. -/
lemma joined {separator : String} (hs : c ∉ separator.toList) {ts : List Template}
    (h : ∀ t ∈ ts, Avoids c t) : Avoids c (Template.joined separator ts) := by
  induction ts with
  | nil => exact nil
  | cons t ts ih =>
    have ht := h t List.mem_cons_self
    have hts := ih fun u hu => h u (List.mem_cons_of_mem _ hu)
    cases ts with
    | nil => exact ht
    | cons u ts => exact ht.append (.text hs hts)

/-- A clause avoids the character if its keyword, its separator and its parts do. -/
lemma clause {keyword separator : String} (hk : c ∉ keyword.toList) (hs : c ∉ separator.toList)
    {ts : List Template} (h : ∀ t ∈ ts, Avoids c t) :
    Avoids c (Template.clause keyword separator ts) := by
  unfold Template.clause
  split
  · exact nil
  · exact .text hk (.joined hs h)

/-- Texts that lie side by side make up one fragment, so no fragment has the character either. -/
lemma fragments (h : Avoids c t) : ∀ f ∈ t.fragments, c ∉ f.toList := by
  induction t with
  | nil => simp [Template.fragments]
  | cons p t ih =>
    have ht : ∀ f ∈ Template.fragments t, c ∉ f.toList :=
      ih fun s hs => h s (List.mem_cons_of_mem _ hs)
    cases p with
    | gap v => simpa [Template.fragments] using ht
    | text s =>
      have hs : c ∉ s.toList := h s List.mem_cons_self
      unfold Template.fragments
      split
      · simpa using hs
      · rename_i f fs e
        rw [e] at ht
        simpa [hs] using ht

end Template.Avoids

/-- Texts without the character are joined to a text without it. -/
lemma not_mem_toList_append {c : Char} {s t : String} (hs : c ∉ s.toList) (ht : c ∉ t.toList) :
    c ∉ (s ++ t).toList := by
  rw [String.toList_append]
  exact fun h => (List.mem_append.mp h).elim hs ht

section Avoids

variable {d : Dialect}

/-- An expression is written without dollar signs if its names have none. -/
lemma Expr.template_avoids {e : Expr} (h : ∀ name ∈ e.names, '$' ∉ name.toList) :
    (e.template d).Avoids '$' := by
  induction e with
  | column name => exact .text (h name List.mem_cons_self) .nil
  | literal v => exact .gap .nil
  | binary op left right ihl ihr =>
    have hl := ihl fun n hn => h n (List.mem_append_left _ hn)
    have hr := ihr fun n hn => h n (List.mem_append_right _ hn)
    exact hl.append (.text (by cases op <;> decide) hr)
  | nested inner ih => exact .text (by decide) ((ih h).append (.text (by decide) .nil))
  | aggregate function inner ih =>
    have hi := ih fun n hn => h n (List.mem_cons_of_mem _ hn)
    have hf := not_mem_toList_append (h function List.mem_cons_self)
      (show '$' ∉ "(".toList by decide)
    exact .text hf (hi.append (.text (by decide) .nil))
  | asText inner ih => exact (ih h).append (.text (by cases d <;> decide) .nil)
  | always => exact .text (by decide) .nil

/-- A selected item is written without dollar signs if its names have none. -/
lemma SelectItem.template_avoids {i : SelectItem} (h : ∀ name ∈ i.names, '$' ∉ name.toList) :
    (i.template d).Avoids '$' := by
  have he : (i.expr.template d).Avoids '$' :=
    Expr.template_avoids fun n hn => h n (List.mem_append_left _ hn)
  unfold template
  cases e : i.label with
  | none => exact he
  | some name =>
    have hname := h name (List.mem_append_right _ (by simp [e]))
    exact he.append (.text (not_mem_toList_append (by decide) hname) .nil)

/-- A count is written without dollar signs if its keyword has none. -/
lemma dollar_not_mem_countText {keyword : String} (h : '$' ∉ keyword.toList) (n : Option Nat) :
    '$' ∉ (countText keyword n).toList := by
  cases n with
  | none => simp [countText]
  | some n =>
    refine not_mem_toList_append h fun hm => ?_
    rw [Nat.toString_eq_repr, Nat.toList_repr] at hm
    have hdigit := Nat.isDigit_of_mem_toDigits (by decide) (by decide) hm
    exact absurd hdigit (by decide)

/-- Outside its names a statement has no mark of a placeholder. -/
lemma Query.template_avoids {q : Query} (h : ∀ name ∈ q.names, '$' ∉ name.toList) :
    (q.template d).Avoids '$' := by
  obtain ⟨htable, hselect, hfilters, hgroups, horders⟩ := Query.forall_names h
  have hs : (selectTemplate d q.select).Avoids '$' := by
    unfold selectTemplate
    split
    · exact .text (by decide) .nil
    · refine .clause (by decide) (by decide) fun t ht => ?_
      obtain ⟨i, hi, rfl⟩ := List.mem_map.mp ht
      exact SelectItem.template_avoids (hselect i hi)
  have hf : (Template.clause " where " " and " (q.filters.map (·.template d))).Avoids '$' := by
    refine .clause (by decide) (by decide) fun t ht => ?_
    obtain ⟨e, he, rfl⟩ := List.mem_map.mp ht
    exact Expr.template_avoids (hfilters e he)
  have hg : (Template.clause " group by " ", " (q.groupBy.map (·.template d))).Avoids '$' := by
    refine .clause (by decide) (by decide) fun t ht => ?_
    obtain ⟨e, he, rfl⟩ := List.mem_map.mp ht
    exact Expr.template_avoids (hgroups e he)
  have ho : (Template.clause " order by " ", "
      (q.orderBy.map fun i => [Piece.text (sortText i)])).Avoids '$' := by
    refine .clause (by decide) (by decide) fun t ht => ?_
    obtain ⟨i, hi, rfl⟩ := List.mem_map.mp ht
    have hd : '$' ∉ i.direction.name.toList := by cases i.direction <;> decide
    exact .text
      (not_mem_toList_append (not_mem_toList_append (horders i hi) (by decide)) hd) .nil
  have hc : Template.Avoids '$' [.text (countText " limit " q.limit),
      .text (countText " offset " q.offset)] :=
    .text (dollar_not_mem_countText (by decide) _)
      (.text (dollar_not_mem_countText (by decide) _) .nil)
  have hfrom : '$' ∉ (" FROM " ++ q.table).toList := not_mem_toList_append (by decide) htable
  exact (((hs.append (.text hfrom hf)).append hg).append ho).append hc

end Avoids

end Sql

/-! ## Placeholders and parameters -/

/-- The cast of a placeholder tells texts from numbers. -/
lemma Operand.placeholder_iff {v : Value} (h : Operand v) (i : Nat) :
    (Dialect.postgres.placeholder i v = "$" ++ toString (i + 1) ++ "::text" ↔ ∃ s, v = .string s) ∧
    (Dialect.postgres.placeholder i v = "$" ++ toString (i + 1) ++ "::float8" ↔
      ∃ n, v = .number n) := by
  have hne : "$" ++ toString (i + 1) ++ "::text" ≠ "$" ++ toString (i + 1) ++ "::float8" :=
    fun e => absurd ((String.append_right_inj _).mp e) (by decide)
  cases h with
  | text s =>
    exact ⟨iff_of_true rfl ⟨s, rfl⟩, iff_of_false hne fun ⟨n, hn⟩ => Value.noConfusion hn⟩
  | number n =>
    exact ⟨iff_of_false hne.symm fun ⟨s, hs⟩ => Value.noConfusion hs, iff_of_true rfl ⟨n, rfl⟩⟩

/-- The keys are bound before everything else, each at the place of its level. -/
lemma Request.literals_query_key {r : Request} (w : PageWindow)
    (hk : r.groupKeys.length ≤ r.groupColumns.length) {i : Nat} {key : String}
    (h : r.groupKeys[i]? = some key) : (r.query w).literals[i]? = some (.string key) := by
  obtain ⟨hi, -⟩ := List.getElem?_eq_some_iff.mp h
  have hlt : i < (r.groupKeys.map Value.string).length := by rwa [List.length_map]
  rw [literals_query_eq, filterClause, List.flatMap_append, GroupColumn.literals_pins hk,
    List.getElem?_append_left hlt, List.getElem?_map, h]
  rfl

/-- The predicates stand in the text of the statement, whatever else it asks for. -/
lemma Request.sql_textWith {r : Request} {w : PageWindow} (h : r.window = .ok w) (d : Dialect)
    (mode : Sql.RenderMode) :
    ∃ select groups, ((r.query w).render d mode).sql =
      r.textWith d mode select groups r.orderClause := by
  cases hr : r.revealed? with
  | some column => exact ⟨_, _, sql_revealing h hr⟩
  | none => exact ⟨_, _, sql_leaf h hr⟩

/--
A valid request compiled for PostgreSQL with its values bound.  Between the fragments of the text stand
the placeholders of the parameters; if no name has the mark in it, neither has any fragment.  Each
parameter is a text, exactly if its placeholder is cast to text, and is bound as that text, or it is a
number, exactly if its placeholder is cast to a binary number, and is bound as one; so it fits the type
of its cast.  The predicates begin with one for each key, which compares the group column as text with
the placeholder of the key.
-/
theorem Request.placeholders_bound {r : Request} (valid : r.validate = .ok ()) :
    let place (i : Nat) := "$" ++ toString (i + 1)
    ∃ s fragments, r.compileParameterized .postgres = .ok s ∧
      s.sql = Template.woven fragments (s.params.mapIdx Dialect.postgres.placeholder) ∧
      fragments.length = s.params.length + 1 ∧
      ((∀ name ∈ r.names, '$' ∉ name.toList) → ∀ f ∈ fragments, '$' ∉ f.toList) ∧
      (∀ i v, s.params[i]? = some v →
        ((∃ t, v = .string t) ∨ ∃ n, v = .number n) ∧
        (Dialect.postgres.placeholder i v = place i ++ "::text" ↔ ∃ t, v = .string t) ∧
        (Dialect.postgres.placeholder i v = place i ++ "::float8" ↔ ∃ n, v = .number n)) ∧
      (∀ t, Parameter.ofJson (.string t) = .text t ∧
        (Parameter.ofJson (.string t)).fits (.ofName "text")) ∧
      (∀ n, Parameter.ofJson (.number n) = .number n.toDouble ∧
        (Parameter.ofJson (.number n)).fits (.ofName "float8")) ∧
      r.groupKeys.length ≤ r.groupColumns.length ∧
      (∀ i column key, r.groupColumns[i]? = some column → r.groupKeys[i]? = some key →
        s.params[i]? = some (.string key) ∧
        (r.conditions .postgres .parameterized)[i]? =
          some (column.field ++ "::text = " ++ place i ++ "::text")) ∧
      ∃ select groups, s.sql =
        r.textWith .postgres .parameterized select groups r.orderClause := by
  intro place
  obtain ⟨hk, w, hw⟩ := validate_inv valid
  have hcompile := compile_of_plan (plan_of_valid valid hw) .postgres .parameterized
  have hparams : ((r.query w).render .postgres .parameterized).params = (r.query w).literals := by
    rw [Query.render_parameterized_woven]
  refine ⟨_, ((r.query w).template .postgres).fragments, hcompile, ?woven, ?length, ?marks, ?casts,
    fun t => ⟨rfl, rfl⟩, fun n => ⟨rfl, rfl⟩, hk, ?keys, sql_textWith hw .postgres .parameterized⟩
  case woven => rw [Plan.statement, Query.render_parameterized_woven]
  case length => rw [Plan.statement, hparams, Template.length_fragments, Query.values_template]
  case marks =>
    intro hn
    exact (Query.template_avoids fun name h => hn name (names_query h)).fragments
  case casts =>
    intro i v hv
    simp only [Plan.statement] at hv
    rw [hparams] at hv
    -- all that is bound is an operand, so no placeholder is left without a cast
    have hoperand : Operand v := literals_query (List.mem_of_getElem? hv)
    refine ⟨?_, hoperand.placeholder_iff i⟩
    cases hoperand with
    | text t => exact .inl ⟨t, rfl⟩
    | number n => exact .inr ⟨n, rfl⟩
  case keys =>
    intro i column key hc hi
    simp only [Plan.statement]
    rw [hparams]
    refine ⟨literals_query_key w hk hi, ?_⟩
    rw [conditions_key hk hc hi]
    simp only [Sql.RenderMode.filling, Dialect.castSuffix, Dialect.placeholder, place,
      String.append_assoc]
    rfl

/-- A key, a text pattern and three numbers, in the order of their placeholders. -/
theorem Request.placeholders_bound_medals :
    (medals "USA" "Phelps" 20 30).validate = .ok () ∧
    ∃ s, (medals "USA" "Phelps" 20 30).compileParameterized .postgres = .ok s ∧
      s.params[0]? = some (.string "USA") ∧
      ((medals "USA" "Phelps" 20 30).conditions .postgres .parameterized)[0]? =
        some "country::text = $1::text" := by
  have valid : (medals "USA" "Phelps" 20 30).validate = .ok () := rfl
  obtain ⟨s, -, hs, -, -, -, -, -, -, -, hkeys, -⟩ := placeholders_bound valid
  obtain ⟨hparam, hcondition⟩ := hkeys 0 ⟨"country", "country"⟩ "USA" rfl rfl
  exact ⟨valid, s, hs, hparam, hcondition⟩

end GridRows
