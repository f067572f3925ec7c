import GridRows.Postgres.Session
import GridRows.Proofs.Clauses
import GridRows.Proofs.Json.Members

/-!
# Columns of grouped rows

A grouped row has the group value and one value for each aggregate, and is kept as an object by the
names of these columns.  An aggregate is named for its field alone, so of the aggregates of one field,
and of the group column if it has that field too, only the last is in the row (`Members.lookup_ofList`).

The main statement is `Request.output_columns`.
-/

namespace GridRows

open Json (Value Members)

/-- The name that a selected expression has in the result; a plain column has its own. -/
def Sql.SelectItem.outputName? : Sql.SelectItem → Option String
  | ⟨_, some label⟩ => some label
  | ⟨.column name, none⟩ => some name
  | _ => none

section Rows

variable {names : List String} {values : List Value}

/-- A row has as many members as columns exactly if the names of the columns differ. -/
lemma length_row (h : values.length = names.length) :
    (Members.ofList (names.zip values)).length = names.length ↔ names.Nodup := by
  have hzip : (names.zip values).map Prod.fst = names := List.map_fst_zip (Nat.le_of_eq h.symm)
  have hmem (name : String) :
      name ∈ (Members.ofList (names.zip values)).map Prod.fst ↔ name ∈ names := by
    rw [Members.mem_keys_ofList, hzip]
  have hlength := Entries.length_eq_iff_nodup (Members.nodup_keys_ofList (names.zip values)) hmem
  rw [List.length_map] at hlength
  exact hlength

/-- Under different names every column is in the row. -/
lemma lookup_row (h : values.length = names.length) (hnames : names.Nodup) {i : Nat} {name : String}
    {value : Value} (hname : names[i]? = some name) (hvalue : values[i]? = some value) :
    (Members.ofList (names.zip values)).lookup name = some value := by
  have hzip : (names.zip values).map Prod.fst = names := List.map_fst_zip (Nat.le_of_eq h.symm)
  have hmem : (name, value) ∈ names.zip values := by
    refine List.mem_of_getElem? (i := i) ?_
    rw [List.getElem?_zip_eq_some]
    exact ⟨hname, hvalue⟩
  have hkeys : ((names.zip values).reverse.map Prod.fst).Nodup := by
    rw [List.map_reverse, hzip]
    exact (List.reverse_perm names).nodup_iff.mpr hnames
  rw [Members.lookup_ofList]
  exact Entries.lookup_of_mem hkeys (List.mem_reverse.mpr hmem)

end Rows

/-- A row of a server is the object of its columns and their cells. -/
lemma Postgres.rowOf_eq (columns : List (String × WireType)) (cells : List (Option (List UInt8))) :
    rowOf columns cells =
      Members.ofList ((columns.map (·.1)).zip (List.zipWith cell (columns.map (·.2)) cells)) := by
  unfold rowOf
  congr 1
  induction columns generalizing cells with
  | nil => rfl
  | cons column columns ih =>
    cases cells with
    | nil => rfl
    | cons found cells =>
      rw [List.zip_cons_cons, List.map_cons, ih]
      rfl

/-- The columns of a grouped row: the group column, then one for each aggregate, by their names. -/
lemma Request.outputNames {r : Request} {column : GroupColumn} (h : r.revealed? = some column) :
    r.selectClause.map (·.outputName?) =
      (column.field :: r.valueColumns.map (·.field)).map some := by
  rw [selectClause_some h, List.map_cons, List.map_map, List.map_cons, List.map_map]
  rfl

/--
The names of the columns that a grouping request selects are the field of the group column and the
fields of the value columns, in order, so they differ exactly if no two value columns have one field
and none has that of the group column.  Of the row that is kept by these names, each name has the last
of its values; there is one member for each column exactly if the names differ, and then every column
has its own value.  The rows of a PostgreSQL server are kept in this way.
-/
theorem Request.output_columns {r : Request} (valid : r.validate = .ok ())
    (grouping : r.groupKeys.length < r.groupColumns.length) :
    ∃ column p, r.groupColumns[r.groupKeys.length]? = some column ∧ r.plan = .ok p ∧
      let names := column.field :: r.valueColumns.map (·.field)
      p.query.select.map (·.outputName?) = names.map some ∧
      (names.Nodup ↔ (r.valueColumns.map (·.field)).Nodup ∧
        ∀ v ∈ r.valueColumns, v.field ≠ column.field) ∧
      (∀ values : List Value, values.length = p.query.select.length →
        let row := Members.ofList (names.zip values)
        (∀ name, row.lookup name = (names.zip values).reverse.lookup name) ∧
        (row.length = p.query.select.length ↔ names.Nodup) ∧
        (names.Nodup → ∀ (i : Nat) (name : String) (value : Value),
          names[i]? = some name → values[i]? = some value → row.lookup name = some value)) ∧
      ∀ (columns : List (String × Postgres.WireType)) (cells : List (Option (List UInt8))),
        columns.map (·.1) = names → Postgres.rowOf columns cells =
          Members.ofList (names.zip (List.zipWith Postgres.cell (columns.map (·.2)) cells)) := by
  obtain ⟨-, w, hw⟩ := validate_inv valid
  obtain ⟨column, hc, hr⟩ := revealed_of_lt grouping
  refine ⟨column, _, hc, plan_of_valid valid hw, ?_⟩
  intro names
  have hselect : (r.query w).select.length = names.length := by
    have h := congrArg List.length (outputNames hr)
    rw [List.length_map, List.length_map] at h
    exact h
  -- names, then rows as objects, then rows as they come off the wire
  refine ⟨outputNames hr, ?_, fun values hvalues => ?_, fun columns cells hcolumns => ?_⟩
  · rw [List.nodup_cons, and_comm]
    refine and_congr_right fun _ => ?_
    simp
  · have hlength : values.length = names.length := hvalues.trans hselect
    intro row
    refine ⟨Members.lookup_ofList _, ?_, fun hnames i name value hname hvalue => ?_⟩
    · rw [hselect]
      exact length_row hlength
    · exact lookup_row hlength hnames hname hvalue
  · rw [Postgres.rowOf_eq, hcolumns]

/-- The years of one country: the year and the gold medals are both in the row. -/
theorem Request.output_columns_medals :
    (medals "USA" "Phelps" 20 30).validate = .ok () ∧
    (medals "USA" "Phelps" 20 30).groupKeys.length <
      (medals "USA" "Phelps" 20 30).groupColumns.length ∧
    ∃ p, (medals "USA" "Phelps" 20 30).plan = .ok p ∧
      p.query.select.map (·.outputName?) = [some "year", some "gold"] ∧
      ∀ year gold : Value,
        (Members.ofList (["year", "gold"].zip [year, gold])).length = p.query.select.length ∧
        (Members.ofList (["year", "gold"].zip [year, gold])).lookup "gold" = some gold := by
  have valid : (medals "USA" "Phelps" 20 30).validate = .ok () := rfl
  obtain ⟨column, p, hc, hp, houtput, -, hrows, -⟩ := output_columns valid (by decide)
  cases hc
  cases hp
  refine ⟨valid, by decide, _, rfl, houtput, fun year gold => ?_⟩
  have hnames : ["year", "gold"].Nodup := by decide
  obtain ⟨-, hlength, hlookup⟩ := hrows [year, gold] rfl
  exact ⟨hlength.mpr hnames, hlookup hnames 1 "gold" gold rfl rfl⟩

/-- The gold medals of each country, all of them and on average. -/
def Request.goldByCountry : Request where
  table := "olympics"
  groupColumns := [⟨"country", "country"⟩]
  groupKeys := []
  valueColumns := [⟨"gold", "sum"⟩, ⟨"gold", "avg"⟩]
  filterModel := none
  sortModel := none
  startRow := 0
  endRow := 10

/-- Two aggregates of one field have one name, and a row of three columns keeps two values. -/
theorem Request.output_columns_collide :
    goldByCountry.validate = .ok () ∧
    goldByCountry.groupKeys.length < goldByCountry.groupColumns.length ∧
    goldByCountry.valueColumns.Nodup ∧
    ∃ p, goldByCountry.plan = .ok p ∧
      p.query.select.map (·.outputName?) = [some "country", some "gold", some "gold"] ∧
      (Members.ofList (["country", "gold", "gold"].zip
        [.string "USA", .string "15", .string "3"])).length = 2 :=
  ⟨rfl, by decide, by decide, _, rfl, rfl, by decide⟩

end GridRows
