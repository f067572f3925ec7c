import GridRows.Sql.Query
import Mathlib.Tactic.Lemma

/-!
# Names in statements

The names that a statement writes, and which of them are plain.
-/

namespace GridRows.Sql

/--
A character of plain names: a letter, a digit, `_` or `.`.  Every character beyond ASCII is taken for
a letter.
-/
def isNameChar (c : Char) : Bool := c.isAlphanum || c = '_' || c = '.' || 0x80 ≤ c.toNat

/-- Whether a name has plain characters only. -/
def isPlain (name : String) : Bool := name.toList.all isNameChar

/-- The names that an expression writes. -/
def Expr.names : Expr → List String
  | .column name => [name]
  | .literal _ => []
  | .binary _ left right => left.names ++ right.names
  | .nested inner => inner.names
  | .aggregate function inner => function :: inner.names
  | .asText inner => inner.names
  | .always => []

/-- The names that a selected expression writes, with the name given to its column. -/
def SelectItem.names (i : SelectItem) : List String := i.expr.names ++ i.label.toList

/-- The names that a statement writes. -/
def Query.names (q : Query) : List String :=
  q.table :: q.select.flatMap (·.names) ++ q.filters.flatMap (·.names) ++
    q.groupBy.flatMap (·.names) ++ q.orderBy.map (·.column)

section Clauses

variable {q : Query}

/-- What holds of the names of a statement holds of those of each clause. -/
lemma Query.forall_names {P : String → Prop} (h : ∀ name ∈ q.names, P name) :
    P q.table ∧ (∀ i ∈ q.select, ∀ name ∈ i.names, P name) ∧
      (∀ e ∈ q.filters, ∀ name ∈ e.names, P name) ∧
      (∀ e ∈ q.groupBy, ∀ name ∈ e.names, P name) ∧ ∀ i ∈ q.orderBy, P i.column := by
  simp only [names, List.cons_append, List.mem_cons, List.mem_append, List.mem_flatMap,
    List.mem_map] at h
  refine ⟨h _ (.inl rfl), ?_, ?_, ?_, ?_⟩
  · exact fun i hi name hn => h name (.inr (.inl (.inl (.inl ⟨i, hi, hn⟩))))
  · exact fun e he name hn => h name (.inr (.inl (.inl (.inr ⟨e, he, hn⟩))))
  · exact fun e he name hn => h name (.inr (.inl (.inr ⟨e, he, hn⟩)))
  · exact fun i hi => h _ (.inr (.inr ⟨i, hi, rfl⟩))

/-- What holds of the literals of a statement holds of those of each clause. -/
lemma Query.forall_literals {P : Json.Value → Prop} (h : ∀ v ∈ q.literals, P v) :
    (∀ i ∈ q.select, ∀ v ∈ i.expr.literals, P v) ∧ (∀ e ∈ q.filters, ∀ v ∈ e.literals, P v) ∧
      ∀ e ∈ q.groupBy, ∀ v ∈ e.literals, P v := by
  simp only [literals, List.mem_append, List.mem_flatMap] at h
  refine ⟨?_, ?_, ?_⟩
  · exact fun i hi v hv => h v (.inl (.inl ⟨i, hi, hv⟩))
  · exact fun e he v hv => h v (.inl (.inr ⟨e, he, hv⟩))
  · exact fun e he v hv => h v (.inr ⟨e, he, hv⟩)

end Clauses

end GridRows.Sql
