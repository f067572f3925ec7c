import GridRows.Proofs.Clauses

/-!
# What a grouped statement is sorted by

While a level is revealed, a sort item stays if its column is the id of that level or of a level above
it.  The statement groups by the field of the revealed level alone, so an item finds its column among
what is grouped by and the aggregates exactly if that id is the field or the name of an aggregate
(`Request.resolves_iff`).  The levels above are pinned: every row that is left has their key.

The main statement is `Request.sorts_in_scope`.
-/

namespace GridRows

open Sql (Expr Query)

/-- The name is that of a column that is grouped by, or one given to an aggregate. -/
def Sql.Query.Resolves (q : Query) (name : String) : Prop :=
  .column name ∈ q.groupBy ∨
    ∃ function inner, (⟨.aggregate function inner, some name⟩ : Sql.SelectItem) ∈ q.select

namespace Request

section Scope

variable {r : Request} {column : GroupColumn} {w : PageWindow}

/-- Of a grouped statement, the field of the group column and those of the value columns can be named. -/
lemma resolves_iff (h : r.revealed? = some column) (name : String) :
    (r.query w).Resolves name ↔
      name = column.field ∨ name ∈ r.valueColumns.map (·.field) := by
  have hgroup : .column name ∈ (r.query w).groupBy ↔ name = column.field := by
    change Expr.column name ∈ r.groupClause ↔ name = column.field
    rw [groupClause_some h, List.mem_singleton, Expr.column.injEq]
  have hselect : (∃ function inner, (⟨.aggregate function inner, some name⟩ : Sql.SelectItem) ∈
      (r.query w).select) ↔ name ∈ r.valueColumns.map (·.field) := by
    change (∃ function inner, (⟨.aggregate function inner, some name⟩ : Sql.SelectItem) ∈
      r.selectClause) ↔ _
    rw [selectClause_some h]
    constructor
    · rintro ⟨function, inner, hmem⟩
      rcases List.mem_cons.mp hmem with heq | hmem
      · cases heq
      · obtain ⟨v, hv, heq⟩ := List.mem_map.mp hmem
        cases heq
        exact List.mem_map.mpr ⟨v, hv, rfl⟩
    · intro hmem
      obtain ⟨v, hv, rfl⟩ := List.mem_map.mp hmem
      exact ⟨_, _, List.mem_cons_of_mem _ (List.mem_map.mpr ⟨v, hv, rfl⟩)⟩
  exact or_congr hgroup hselect

/-- A sort item that stays names a level, which is the revealed one or one with a key. -/
lemma level_of_mem_orderClause (h : r.groupKeys.length < r.groupColumns.length) {item : SortItem}
    (hitem : item ∈ r.orderClause) :
    ∃ i level, i ≤ r.groupKeys.length ∧ r.groupColumns[i]? = some level ∧
      item.column = level.id := by
  rw [orderClause_of_lt h] at hitem
  obtain ⟨-, hscope⟩ := List.mem_filter.mp hitem
  obtain ⟨level, hlevel, hid⟩ := List.mem_map.mp (of_decide_eq_true hscope)
  obtain ⟨i, hi⟩ := List.mem_iff_getElem?.mp hlevel
  have hlt : i < r.groupKeys.length + 1 := by
    obtain ⟨hlt, -⟩ := List.getElem?_eq_some_iff.mp hi
    rw [List.length_take] at hlt
    omega
  rw [List.getElem?_take_of_lt hlt] at hi
  exact ⟨i, level, Nat.le_of_lt_succ hlt, hi, hid.symm⟩

/-- A level above the revealed one is pinned to its key. -/
lemma pinned_of_lt {i : Nat} {level : GroupColumn} (hlevel : r.groupColumns[i]? = some level)
    (hi : i < r.groupKeys.length) :
    ∃ key, r.groupKeys[i]? = some key ∧ r.filterClause[i]? = some (level.pin key) := by
  have hkey := List.getElem?_eq_getElem hi
  exact ⟨_, hkey, filterClause_key hlevel hkey⟩

end Scope

/--
A valid request with `k` keys that has a level left to reveal is sorted by exactly those of its sort
items, in their order, whose column is the id of one of the first `k + 1` group columns.  Each of them
names the revealed column, or a level that the statement pins to its key.  The names that can be found
among what is grouped by and the aggregates are the field of the revealed column and those of the value
columns.  So if ids are fields, an item names the column that is grouped by or one that is pinned, and
without keys it names the former.
-/
theorem sorts_in_scope {r : Request} (valid : r.validate = .ok ())
    (grouping : r.groupKeys.length < r.groupColumns.length) :
    let k := r.groupKeys.length
    let scope := r.groupColumns.take (k + 1)
    ∃ column p, r.groupColumns[k]? = some column ∧ r.plan = .ok p ∧
      p.query.groupBy = [.column column.field] ∧
      p.query.orderBy = r.sorts.filter (·.column ∈ scope.map (·.id)) ∧
      (∀ item ∈ p.query.orderBy, item.column = column.id ∨
        ∃ i level key, i < k ∧ r.groupColumns[i]? = some level ∧ r.groupKeys[i]? = some key ∧
          item.column = level.id ∧ p.query.filters[i]? = some (level.pin key)) ∧
      (∀ name, p.query.Resolves name ↔
        name = column.field ∨ name ∈ r.valueColumns.map (·.field)) ∧
      ((∀ level ∈ scope, level.id = level.field) →
        (∀ item ∈ p.query.orderBy, p.query.Resolves item.column ∨
          ∃ i level key, i < k ∧ r.groupColumns[i]? = some level ∧ r.groupKeys[i]? = some key ∧
            item.column = level.field ∧ p.query.filters[i]? = some (level.pin key)) ∧
        (k = 0 → ∀ item ∈ p.query.orderBy, p.query.Resolves item.column)) := by
  intro k scope
  obtain ⟨-, w, hw⟩ := validate_inv valid
  obtain ⟨column, hc, hr⟩ := revealed_of_lt grouping
  -- the levels in scope are the revealed one, which is not pinned, and those above, which are
  have hnames : ∀ item ∈ r.orderClause, item.column = column.id ∨
      ∃ i level key, i < k ∧ r.groupColumns[i]? = some level ∧ r.groupKeys[i]? = some key ∧
        item.column = level.id ∧ r.filterClause[i]? = some (level.pin key) := by
    intro item hitem
    obtain ⟨i, level, hi, hlevel, hid⟩ := level_of_mem_orderClause grouping hitem
    rcases Nat.lt_or_eq_of_le hi with hlt | rfl
    · obtain ⟨key, hkey, hpin⟩ := pinned_of_lt hlevel hlt
      exact .inr ⟨i, level, key, hlt, hlevel, hkey, hid, hpin⟩
    · cases hc.symm.trans hlevel
      exact .inl hid
  have hmem {i : Nat} {level : GroupColumn} (hi : i ≤ k) (h : r.groupColumns[i]? = some level) :
      level ∈ scope := by
    refine List.mem_of_getElem? (i := i) ?_
    rw [List.getElem?_take_of_lt (Nat.lt_succ_of_le hi)]
    exact h
  refine ⟨column, _, hc, plan_of_valid valid hw, groupClause_some hr, orderClause_of_lt grouping,
    hnames, resolves_iff hr, fun hids => ?_⟩
  have hresolves {item : SortItem} (h : item.column = column.id) :
      (r.query w).Resolves item.column :=
    (resolves_iff hr _).mpr (.inl (h.trans (hids column (hmem (Nat.le_refl k) hc))))
  constructor
  · intro item hitem
    rcases hnames item hitem with hid | ⟨i, level, key, hi, hlevel, hkey, hid, hpin⟩
    · exact .inl (hresolves hid)
    · have hfield := hids level (hmem (Nat.le_of_lt hi) hlevel)
      exact .inr ⟨i, level, key, hi, hlevel, hkey, hid.trans hfield, hpin⟩
  · intro hk item hitem
    rcases hnames item hitem with hid | ⟨i, -, -, hi, -⟩
    · exact hresolves hid
    · omega

/-- The years of one country, sorted by that country. -/
def sortedYears : Request where
  table := "olympics"
  groupColumns := [⟨"country", "country"⟩, ⟨"year", "year"⟩]
  groupKeys := ["USA"]
  valueColumns := [⟨"gold", "sum"⟩]
  filterModel := none
  sortModel := some [⟨"gold", .asc⟩, ⟨"country", .desc⟩, ⟨"year", .asc⟩]
  startRow := 0
  endRow := 10

/-- The sort by gold is dropped, that by years finds its column, and the country is pinned. -/
theorem sorts_in_scope_years :
    sortedYears.validate = .ok () ∧ sortedYears.groupKeys.length < sortedYears.groupColumns.length ∧
    ∃ p, sortedYears.plan = .ok p ∧
      p.query.orderBy = [⟨"country", .desc⟩, ⟨"year", .asc⟩] ∧ p.query.Resolves "year" ∧
      ∀ item ∈ p.query.orderBy, p.query.Resolves item.column ∨
        p.query.filters[0]? = some ((⟨"country", "country"⟩ : GroupColumn).pin "USA") := by
  obtain ⟨column, p, hc, hp, -, horder, -, hresolves, hfields⟩ :=
    sorts_in_scope (r := sortedYears) rfl (by decide)
  cases hc
  refine ⟨rfl, by decide, p, hp, horder, (hresolves "year").mpr (.inl rfl), fun item hitem => ?_⟩
  obtain ⟨hitems, -⟩ := hfields (by decide)
  rcases hitems item hitem with h | ⟨i, level, key, hi, hlevel, hkey, -, hpin⟩
  · exact .inl h
  · obtain rfl : i = 0 := Nat.lt_one_iff.mp hi
    cases hlevel
    cases hkey
    exact .inr hpin

/-- The country that the years are sorted by is neither grouped by nor an aggregate. -/
theorem sorts_out_of_reach :
    sortedYears.validate = .ok () ∧ sortedYears.groupKeys.length < sortedYears.groupColumns.length ∧
    ∃ p, sortedYears.plan = .ok p ∧ p.query.groupBy = [.column "year"] ∧
      ⟨"country", .desc⟩ ∈ p.query.orderBy ∧ ¬ p.query.Resolves "country" := by
  refine ⟨rfl, by decide, _, rfl, rfl, by decide, ?_⟩
  intro hresolves
  have hyears : sortedYears.revealed? = some ⟨"year", "year"⟩ := rfl
  rcases (resolves_iff hyears "country").mp hresolves with hyear | hgold
  · exact absurd hyear (by decide)
  · exact absurd hgold (by decide)

end Request

end GridRows
