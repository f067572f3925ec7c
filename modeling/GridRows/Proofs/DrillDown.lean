import GridRows.Proofs.Clauses
import Mathlib.Data.List.Basic

/-!
# Drilling down

A grid opens a group row by asking again with the key of that row appended.  One such step pins the
level that was revealed and reveals the next (`Request.filterClause_drill`,
`Request.orderClause_drill`).
A path of keys is walked step by step, and by induction on the path the request stays valid
(`Request.validate_drillAlong`) until no level is left.

The main statement is `Request.drill_down`.
-/

namespace GridRows

/-- The request for what is in a group row: the key of the row is appended. -/
def Request.drill (r : Request) (key : String) : Request :=
  { r with groupKeys := r.groupKeys ++ [key] }

/-- The request after a path of keys, one step for each. -/
def Request.drillAlong (r : Request) (path : List String) : Request := path.foldl Request.drill r

/-! ## One step -/

section Step

variable {r : Request} {key : String}

/-- Opening a group adds one key. -/
lemma Request.length_drill (r : Request) (key : String) :
    (r.drill key).groupKeys.length = r.groupKeys.length + 1 := by
  rw [drill, List.length_append, List.length_singleton]

/-- While a level is left, there is room for one key more. -/
lemma Request.validate_drill (valid : r.validate = .ok ())
    (h : r.groupKeys.length < r.groupColumns.length) : (r.drill key).validate = .ok () := by
  obtain ⟨ht, -, hg, hv, hw⟩ := validate_eq_ok.mp valid
  have hk : (r.drill key).groupKeys.length ≤ r.groupColumns.length := by
    rw [length_drill]
    exact h
  exact validate_eq_ok.mpr ⟨ht, hk, hg, hv, hw⟩

/-- Pins go on with one for the next column and the next key. -/
lemma GroupColumn.pins_concat {columns : List GroupColumn} {keys : List String}
    {column : GroupColumn} (h : columns[keys.length]? = some column) (key : String) :
    List.zipWith pin columns (keys ++ [key]) = List.zipWith pin columns keys ++ [column.pin key] := by
  induction keys generalizing columns with
  | nil =>
    cases columns with
    | nil => cases h
    | cons c columns =>
      cases h
      simp
  | cons k keys ih =>
    cases columns with
    | nil => cases h
    | cons c columns =>
      rw [List.length_cons, List.getElem?_cons_succ] at h
      rw [List.cons_append, List.zipWith_cons_cons, ih h]
      rfl

/-- What is inserted at the end of the front part stands between the parts. -/
lemma insertIdx_append {α : Type} {n : Nat} {l : List α} (h : l.length = n) (l' : List α) (a : α) :
    (l ++ l').insertIdx n a = l ++ a :: l' := by
  subst h
  induction l with
  | nil => rfl
  | cons b l ih =>
    rw [List.cons_append, List.length_cons, List.insertIdx_succ_cons, ih]
    rfl

/-- The level that was revealed is pinned, after those above it and before the filters. -/
lemma Request.filterClause_drill {column : GroupColumn}
    (hc : r.groupColumns[r.groupKeys.length]? = some column) :
    (r.drill key).filterClause = r.filterClause.insertIdx r.groupKeys.length (column.pin key) := by
  obtain ⟨hlt, -⟩ := List.getElem?_eq_some_iff.mp hc
  have hstep : (r.drill key).filterClause =
      List.zipWith GroupColumn.pin r.groupColumns (r.groupKeys ++ [key]) ++
        r.filters.map fun entry => entry.2.toExpr entry.1 :=
    rfl
  rw [hstep, GroupColumn.pins_concat hc, List.append_assoc, filterClause,
    insertIdx_append (length_pins (Nat.le_of_lt hlt))]
  rfl

/-- What was sorted by stays; an item for the next level may come back, and at the last step all do. -/
lemma Request.orderClause_drill (h : r.groupKeys.length < r.groupColumns.length) :
    r.orderClause.Sublist (r.drill key).orderClause := by
  rw [orderClause_of_lt h]
  rcases Nat.lt_or_ge (r.groupKeys.length + 1) r.groupColumns.length with hlt | hge
  · have hlt : (r.drill key).groupKeys.length < r.groupColumns.length := by
      rw [length_drill]
      exact hlt
    rw [orderClause_of_lt hlt, length_drill]
    refine List.monotone_filter_right _ fun i hi => ?_
    have hsub : r.groupColumns.take (r.groupKeys.length + 1) ⊆
        r.groupColumns.take (r.groupKeys.length + 1 + 1) :=
      List.take_subset_take_left _ (Nat.le_succ _)
    exact decide_eq_true (List.map_subset _ hsub (of_decide_eq_true hi))
  · have hge : (r.drill key).groupColumns.length ≤ (r.drill key).groupKeys.length := by
      rw [length_drill]
      exact hge
    rw [orderClause_of_le hge]
    exact List.filter_sublist

end Step

/-! ## A path -/

section Path

variable {r : Request}

/-- The keys of the path are appended in order, and nothing else changes. -/
lemma Request.drillAlong_eq (r : Request) (path : List String) :
    r.drillAlong path = { r with groupKeys := r.groupKeys ++ path } := by
  induction path generalizing r with
  | nil => rw [List.append_nil]; rfl
  | cons key path ih =>
    have hstep : r.drillAlong (key :: path) = (r.drill key).drillAlong path := rfl
    rw [hstep, ih, drill, List.append_assoc]
    rfl

/-- A path may be as long as levels are left. -/
lemma Request.validate_drillAlong (valid : r.validate = .ok ()) {path : List String}
    (h : r.groupKeys.length + path.length ≤ r.groupColumns.length) :
    (r.drillAlong path).validate = .ok () := by
  induction path generalizing r with
  | nil => exact valid
  | cons key path ih =>
    rw [List.length_cons] at h
    have hstep : (r.drill key).validate = .ok () := validate_drill valid (by omega)
    have hroom : (r.drill key).groupKeys.length + path.length ≤ r.groupColumns.length := by
      rw [length_drill]
      omega
    exact ih hstep hroom

end Path

/--
Drilling down from a valid request with `k` keys and `n` group columns, `k < n`.  The request for a key
more is valid.  Its plan has one predicate more, at place `k`: the column that was selected and grouped
by, compared as text with the key.  It sorts by what was sorted by, at least; table, window and ignored
filters are the same; and the group column after is revealed, or none exactly if `k + 1 = n`.  Along a
path no longer than `n - k` the request stays valid with all keys pinned in order, and it shows rows,
not groups, exactly after `n - k` steps.
-/
theorem Request.drill_down {r : Request} (valid : r.validate = .ok ())
    (grouping : r.groupKeys.length < r.groupColumns.length) :
    let k := r.groupKeys.length
    let n := r.groupColumns.length
    (∀ key, ∃ (column : GroupColumn) (p p' : Plan), r.plan = .ok p ∧ (r.drill key).validate = .ok () ∧
      (r.drill key).plan = .ok p' ∧ p.query.select.head? = some ⟨.column column.field, none⟩ ∧
      p.query.groupBy = [.column column.field] ∧
      p'.query.filters = p.query.filters.insertIdx k
        (.binary .eq (.asText (.column column.field)) (.literal (.string key))) ∧
      p.query.orderBy.Sublist p'.query.orderBy ∧ p'.query.table = p.query.table ∧
      p'.query.limit = p.query.limit ∧ p'.query.offset = p.query.offset ∧
      p'.ignoredFilters = p.ignoredFilters ∧
      (r.drill key).revealed? = r.groupColumns[k + 1]? ∧
      p'.query.groupBy = (r.groupColumns[k + 1]?.map fun c => .column c.field).toList ∧
      ((r.drill key).revealed? = none ↔ k + 1 = n)) ∧
    ∀ path : List String, path.length ≤ n - k →
      (r.drillAlong path).validate = .ok () ∧ ∃ p, (r.drillAlong path).plan = .ok p ∧
        p.query.filters = List.zipWith GroupColumn.pin r.groupColumns (r.groupKeys ++ path) ++
          r.filters.map (fun entry => entry.2.toExpr entry.1) ∧
        (p.query.select = [] ↔ path.length = n - k) ∧
        (p.query.groupBy = [] ↔ path.length = n - k) ∧
        (path.length = n - k → p.query.orderBy = r.sorts) := by
  intro k n
  obtain ⟨-, w, hw⟩ := validate_inv valid
  obtain ⟨column, hc, hr⟩ := revealed_of_lt grouping
  -- one step first; a whole path is the request with all its keys, so it needs no induction here
  refine ⟨fun key => ?_, fun path hpath => ?_⟩
  · have hvalid : (r.drill key).validate = .ok () := validate_drill valid grouping
    have hnext : (r.drill key).revealed? = r.groupColumns[k + 1]? := by
      rw [revealed_eq, length_drill]
      rfl
    refine ⟨column, _, _, plan_of_valid valid hw, hvalid, plan_of_valid hvalid hw, ?_,
      groupClause_some hr, filterClause_drill hc, orderClause_drill grouping, rfl, rfl, rfl, rfl,
      hnext, ?_, ?_⟩
    · exact congrArg List.head? (selectClause_some hr)
    · rw [← hnext]
      rfl
    · rw [hnext, List.getElem?_eq_none_iff]
      omega
  · have hvalid : (r.drillAlong path).validate = .ok () :=
      validate_drillAlong valid (by omega)
    have e := r.drillAlong_eq path
    have hw' : (r.drillAlong path).window = .ok w := by
      rw [e]
      exact hw
    have hlevels : (r.drillAlong path).groupColumns.length ≤ (r.drillAlong path).groupKeys.length ↔
        path.length = n - k := by
      rw [e]
      show n ≤ (r.groupKeys ++ path).length ↔ path.length = n - k
      rw [List.length_append]
      omega
    refine ⟨hvalid, _, plan_of_valid hvalid hw', ?_, ?_, ?_, fun h => ?_⟩
    · rw [e]
      rfl
    · rw [← hlevels]
      exact selectClause_eq_nil
    · rw [← hlevels]
      exact groupClause_eq_nil
    · have horder := orderClause_of_le (hlevels.mpr h)
      rw [e] at horder ⊢
      exact horder

/-- The medals of a country by year, and on to the rows of one year. -/
theorem Request.drill_down_medals :
    (medals "USA" "Phelps" 20 30).validate = .ok () ∧
    (medals "USA" "Phelps" 20 30).groupKeys.length <
      (medals "USA" "Phelps" 20 30).groupColumns.length ∧
    ∃ p, ((medals "USA" "Phelps" 20 30).drillAlong ["2008"]).plan = .ok p ∧
      p.query.select = [] ∧ p.query.groupBy = [] ∧
      p.query.filters.take 2 = [
        .binary .eq (.asText (.column "country")) (.literal (.string "USA")),
        .binary .eq (.asText (.column "year")) (.literal (.string "2008"))] ∧
      p.query.orderBy = [⟨"year", .desc⟩, ⟨"athlete", .asc⟩] := by
  have valid : (medals "USA" "Phelps" 20 30).validate = .ok () := rfl
  obtain ⟨-, hpath⟩ := drill_down valid (by decide)
  obtain ⟨-, p, hp, hf, hs, hg, ho⟩ := hpath ["2008"] (by decide)
  refine ⟨valid, by decide, p, hp, hs.mpr (by decide), hg.mpr (by decide), ?_, ho (by decide)⟩
  rw [hf]
  rfl

end GridRows
