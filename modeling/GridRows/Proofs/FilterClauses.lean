import GridRows.Proofs.Clauses
import GridRows.Proofs.Validation

/-!
# Filters follow the document

The predicates of a plan that come from filters stand in the order in which the columns first occur in
the document, each made of the last member of its column.  Those of filters that are not supported hold
of every row, and their columns are reported as ignored; without such filters the plan is the same but
for these predicates and the report (`Request.plan_supported`).

The main statement is `Request.filters_follow_document`.  It speaks of the members that a document has
for the filter model, of which any list occurs (`Request.readListed_text`).
-/

namespace GridRows

open Json (Value)
open Json.Reader
open Sql (Expr)

/-! ## Predicates that hold of every row -/

/-- Whether the predicate is the one that holds of every row. -/
def Sql.Expr.isAlways : Expr → Bool
  | .always => true
  | _ => false

/-- The test recognises the expression that is always true. -/
lemma Sql.Expr.isAlways_iff {e : Expr} : e.isAlways = true ↔ e = .always := by
  cases e with
  | always => exact iff_of_true rfl rfl
  | _ => exact iff_of_false nofun nofun

/-- A filter holds of every row by its form exactly if it is unsupported. -/
lemma Filter.isAlways_toExpr (f : Filter) (column : String) :
    (f.toExpr column).isAlways = f.isUnsupported := by
  cases f <;> rfl

/-- Only an unsupported filter becomes the expression that is always true. -/
lemma Filter.toExpr_eq_always {f : Filter} {column : String} :
    f.toExpr column = .always ↔ f.isUnsupported = true := by
  rw [← Expr.isAlways_iff, isAlways_toExpr]

namespace Request

section Predicates

variable {r : Request}

/-- The first conditions are the pins of the opened groups. -/
lemma filterClause_take (hk : r.groupKeys.length ≤ r.groupColumns.length) :
    r.filterClause.take r.groupKeys.length =
      List.zipWith GroupColumn.pin r.groupColumns r.groupKeys := by
  rw [filterClause, ← length_pins hk, List.take_left]

/-- No pin holds of every row, so a predicate that does is that of a filter. -/
lemma filterClause_always (hk : r.groupKeys.length ≤ r.groupColumns.length) {i : Nat} :
    r.filterClause[i]? = some .always ↔
      ∃ j column f, i = r.groupKeys.length + j ∧ r.filters[j]? = some (column, f) ∧
        f.isUnsupported = true := by
  constructor
  · intro h
    obtain hlt | ⟨j, rfl⟩ := Nat.lt_or_ge i r.groupKeys.length |>.imp_right Nat.exists_eq_add_of_le
    · rw [← List.getElem?_take_of_lt hlt, filterClause_take hk] at h
      obtain ⟨c, _, key, _, hpin⟩ := mem_pins (List.mem_of_getElem? h)
      cases hpin
    · cases hf : r.filters[j]? with
      | none =>
        have hlength := length_filterClause hk
        rw [List.getElem?_eq_none_iff] at hf
        rw [List.getElem?_eq_none (by omega)] at h
        cases h
      | some entry =>
        obtain ⟨column, f⟩ := entry
        have he := (filterClause_filter hk hf).symm.trans h
        exact ⟨j, column, f, rfl, hf, Filter.toExpr_eq_always.mp (Option.some.inj he)⟩
  · rintro ⟨j, column, f, rfl, hf, hunsupported⟩
    rw [filterClause_filter hk hf, Filter.toExpr_eq_always.mpr hunsupported]

/-- Ignored filters are listed in the order of the filters. -/
lemma sublist_ignoredFilters : r.ignoredFilters.Sublist (r.filters.map Prod.fst) :=
  List.filter_sublist.map Prod.fst

/-- With one filter for each column, a column is ignored exactly if its filter is unsupported. -/
lemma mem_ignoredFilters (hnodup : (r.filters.map Prod.fst).Nodup) {column : String} {f : Filter}
    (hf : (column, f) ∈ r.filters) : column ∈ r.ignoredFilters ↔ f.isUnsupported = true := by
  constructor
  · intro h
    obtain ⟨⟨name, g⟩, hg, rfl⟩ := List.mem_map.mp h
    obtain ⟨hmem, hunsupported⟩ := List.mem_filter.mp hg
    have hsame := (Entries.lookup_of_mem hnodup hf).symm.trans (Entries.lookup_of_mem hnodup hmem)
    cases hsame
    exact hunsupported
  · intro h
    exact List.mem_map.mpr ⟨(column, f), List.mem_filter.mpr ⟨hf, h⟩, rfl⟩

end Predicates

/-! ## Without the filters that are not supported -/

/-- The request without the filters that are not supported. -/
def supported (r : Request) : Request :=
  { r with filterModel := r.filterModel.map (·.filter fun entry => !entry.2.isUnsupported) }

section Supported

variable {r : Request}

/-- What is left out are the unsupported filters. -/
lemma filters_supported (r : Request) :
    r.supported.filters = r.filters.filter fun entry => !entry.2.isUnsupported := by
  unfold supported filters
  cases r.filterModel with
  | none => rfl
  | some model => rfl

/-- Without unsupported filters none is ignored. -/
lemma ignoredFilters_supported (r : Request) : r.supported.ignoredFilters = [] := by
  rw [ignoredFilters, filters_supported, List.filter_filter, List.map_eq_nil_iff,
    List.filter_eq_nil_iff]
  rintro entry - h
  cases hu : entry.2.isUnsupported <;> simp [hu] at h

/-- Leaving out the unsupported filters leaves out the conditions that are always true. -/
lemma filterClause_supported (r : Request) :
    r.supported.filterClause = r.filterClause.filter fun e => !e.isAlways := by
  have hpins : (List.zipWith GroupColumn.pin r.groupColumns r.groupKeys).filter
      (fun e => !e.isAlways) = List.zipWith GroupColumn.pin r.groupColumns r.groupKeys := by
    refine List.filter_eq_self.mpr fun e he => ?_
    obtain ⟨c, _, key, _, rfl⟩ := mem_pins he
    rfl
  have hfilters : (r.filters.map fun entry => entry.2.toExpr entry.1).filter (fun e => !e.isAlways) =
      (r.filters.filter fun entry => !entry.2.isUnsupported).map fun entry =>
        entry.2.toExpr entry.1 := by
    rw [List.filter_map]
    congr 1
    refine List.filter_congr fun entry _ => ?_
    rw [Function.comp_apply, Filter.isAlways_toExpr]
  rw [filterClause, filterClause, List.filter_append, hpins, hfilters, filters_supported]
  rfl

/-- The plan loses the predicates that hold of every row, and nothing else but the report of them. -/
lemma plan_supported {p : Plan} (valid : r.validate = .ok ()) (hp : r.plan = .ok p) :
    r.supported.plan = .ok { p with
      query := { p.query with filters := p.query.filters.filter fun e => !e.isAlways }
      ignoredFilters := [] } := by
  obtain ⟨-, w, hw⟩ := validate_inv valid
  cases (plan_of_valid valid hw).symm.trans hp
  have hvalid : r.supported.validate = .ok () := valid
  have hwindow : r.supported.window = .ok w := hw
  rw [plan_of_valid hvalid hwindow, query, ignoredFilters_supported, filterClause_supported]
  rfl

end Supported

/-! ## The members of a document -/

/-- A request as it is read has one filter for each column. -/
lemma Sound.nodup_columns {r : Request} (h : r.Sound) : (r.filters.map Prod.fst).Nodup := by
  unfold filters
  cases hmodel : r.filterModel with
  | none => exact List.nodup_nil
  | some model => exact (h.filterModel model hmodel).nodup

/-- The filters of the merged request are made of the members that are listed. -/
lemma filters_merge (document : Request) :
    document.merge.filters = FilterModel.ofMembers document.filters := by
  unfold merge filters
  cases document.filterModel with
  | none => rfl
  | some members => rfl

/-- The columns of the merged request are those that are listed, each at its first place. -/
lemma columns_merge (document : Request) :
    document.merge.filters.map Prod.fst = (document.filters.map Prod.fst).eraseDups := by
  rw [filters_merge, FilterModel.keys_ofMembers]

/-- Where a column stands, there stands the filter of its last member. -/
lemma filter_merge {document : Request} (hnodup : (document.merge.filters.map Prod.fst).Nodup)
    {j : Nat} {column : String}
    (hc : (document.filters.map Prod.fst).eraseDups[j]? = some column) :
    ∃ f, document.merge.filters[j]? = some (column, f) ∧
      document.filters.reverse.lookup column = some f := by
  rw [← columns_merge, List.getElem?_map] at hc
  obtain ⟨⟨_, f⟩, hf, rfl⟩ := Option.map_eq_some_iff.mp hc
  refine ⟨f, hf, ?_⟩
  rw [← FilterModel.lookup_ofMembers, ← filters_merge]
  exact Entries.lookup_of_mem hnodup (List.mem_of_getElem? hf)

/-- Every request that is read has been merged from a document. -/
lemma exists_document {text : String} {r : Request} (h : Request.read text = .ok r) :
    ∃ document, readListed text = .ok document ∧ r = document.merge := by
  rw [read_eq_merge] at h
  cases hdocument : readListed text with
  | error fault =>
    rw [hdocument] at h
    cases h
  | ok document =>
    rw [hdocument] at h
    cases h
    exact ⟨document, rfl, rfl⟩

end Request

/-- Listing the members of a document that are filters puts them behind those before them. -/
lemma FilterModel.fills_listed {depth : Nat} (front : List (String × Filter))
    {back : List (String × Filter)}
    (h : ∀ entry ∈ back, Reads (Filter.shape.read depth) entry.2.toJson.chars entry.2) :
    Fills (memberListed depth) (back.map fun entry => (entry.1, entry.2.toJson)) front
      (front ++ back) := by
  induction back generalizing front with
  | nil =>
    rw [List.append_nil]
    exact .nil front
  | cons entry back ih =>
    obtain ⟨column, f⟩ := entry
    obtain ⟨hf, hback⟩ := List.forall_mem_cons.mp h
    have hmember : Reads (memberListed depth column front) (':' :: f.toJson.chars)
        (front ++ [(column, f)]) :=
      fun rest hs => (takes_colon _).bind.mpr (hf.map _ rest hs)
    rw [List.append_cons]
    exact .cons hmember (ih (front ++ [(column, f)]) hback)

/-- Any members, also more than one of a column, are those of some document. -/
lemma Request.readListed_text {document : Request} (hstart : InWord document.startRow)
    (hend : InWord document.endRow) (hsettled : ∀ entry ∈ document.filters, entry.2.Settled)
    (hnumbers : ∀ n ∈ document.numbers, (Value.number n).ReadsBack) :
    readListed document.text = .ok document := by
  have hreads : Reads ((shapeWith FilterModel.memberListed).read (124 + 3)) document.toJson.chars
      document := by
    refine reads_with hstart hend fun members hmembers => ?_
    have hfilters : document.filters = members := by rw [filters, hmembers]; rfl
    refine FilterModel.reads_with (FilterModel.fills_listed [] fun entry hentry => ?_)
    rw [← hfilters] at hentry
    refine Filter.reads_toJson (hsettled entry hentry) fun n hn => hnumbers n ?_
    exact List.mem_flatMap.mpr ⟨entry, hentry, hn⟩
  exact hreads.run

/--
The filters of every valid request that is read from a text follow the members that the text has for
its filter model, whichever they are.  Behind the pins, the plan has one predicate for each column of
the members, in the order in which the columns first occur, made of the filter of the last member of
its column.  The ignored columns are those of the columns, in the same order and without repetition,
whose filter is not supported, and they stand exactly where the predicate is the one that holds of
every row.  Without these filters the request has the same plan but for those predicates, and ignores
nothing.
-/
theorem Request.filters_follow_document {text : String} {r : Request}
    (h : readValid text = .ok r) :
    ∃ document p, readListed text = .ok document ∧ r = document.merge ∧ r.plan = .ok p ∧
      let members := document.filters
      let columns := (members.map Prod.fst).eraseDups
      let k := r.groupKeys.length
      p.query.filters.length = k + columns.length ∧
      p.query.filters.take k = List.zipWith GroupColumn.pin r.groupColumns r.groupKeys ∧
      (∀ (j : Nat) (column : String), columns[j]? = some column →
        ∃ f, members.reverse.lookup column = some f ∧
          p.query.filters[k + j]? = some (f.toExpr column) ∧
          (column ∈ p.ignoredFilters ↔ f.isUnsupported = true)) ∧
      p.ignoredFilters.Sublist columns ∧ p.ignoredFilters.Nodup ∧
      (∀ i, p.query.filters[i]? = some .always ↔
        ∃ j column, i = k + j ∧ columns[j]? = some column ∧ column ∈ p.ignoredFilters) ∧
      r.supported.plan = .ok { p with
        query := { p.query with filters := p.query.filters.filter fun e => !e.isAlways }
        ignoredFilters := [] } := by
  have valid := validate_of_readValid h
  have hread := read_of_readValid h
  have hnodup := (read_sound hread).nodup_columns
  obtain ⟨document, hdocument, rfl⟩ := exists_document hread
  obtain ⟨hk, w, hw⟩ := validate_inv valid
  have hp := plan_of_valid valid hw
  have hcolumns := document.columns_merge
  have hsublist := document.merge.sublist_ignoredFilters
  have hignored := hsublist
  rw [hcolumns] at hignored
  refine ⟨document, _, hdocument, rfl, hp, ?_⟩
  intro members columns k
  refine ⟨?length, filterClause_take hk, fun j column hc => ?each, hignored,
    hnodup.sublist hsublist, fun i => (filterClause_always hk).trans ⟨?ignored, ?always⟩,
    plan_supported valid hp⟩
  case length =>
    have hlength := congrArg List.length hcolumns
    rw [List.length_map] at hlength
    exact (length_filterClause hk).trans (congrArg (k + ·) hlength)
  case each =>
    -- no column is repeated after the merge, so the filter found by name is the one at the place
    obtain ⟨f, hf, hlast⟩ := filter_merge hnodup hc
    exact ⟨f, hlast, filterClause_filter hk hf, mem_ignoredFilters hnodup (List.mem_of_getElem? hf)⟩
  case ignored =>
    rintro ⟨j, column, f, rfl, hf, hunsupported⟩
    have hc : columns[j]? = some column := by
      change (document.filters.map Prod.fst).eraseDups[j]? = some column
      rw [← hcolumns, List.getElem?_map, hf]
      rfl
    have hmem := mem_ignoredFilters hnodup (List.mem_of_getElem? hf)
    exact ⟨j, column, rfl, hc, hmem.mpr hunsupported⟩
  case always =>
    rintro ⟨j, column, rfl, hc, hignored⟩
    obtain ⟨f, hf, -⟩ := filter_merge hnodup hc
    have hmem := mem_ignoredFilters hnodup (List.mem_of_getElem? hf)
    exact ⟨j, column, f, rfl, hf, hmem.mp hignored⟩

/-- Medals of one country whose filter model has the athlete twice, at last with an unknown kind. -/
def Request.repeated : Request where
  table := "medals"
  groupColumns := [⟨"country", "country"⟩]
  groupKeys := ["USA"]
  valueColumns := []
  filterModel := some [
    ("athlete", .text .contains "Phelps"),
    ("gold", .number .greaterThan (.ofInt64 1)),
    ("athlete", .unsupported "set" none),
    ("year", .number .equals (.ofInt64 2008))]
  sortModel := none
  startRow := 0
  endRow := 100

/-- The athlete keeps the first place and is ignored, since its last filter is not supported. -/
theorem Request.filters_follow_document_repeated :
    readValid repeated.text = .ok repeated.merge ∧
    ∃ p, repeated.merge.plan = .ok p ∧ p.query.filters.length = 4 ∧
      p.query.filters[1]? = some .always ∧
      p.query.filters[2]? = some (compareColumn "gold" .gt (.number (.ofInt64 1))) ∧
      p.ignoredFilters = ["athlete"] ∧
      ∃ q, repeated.merge.supported.plan = .ok q ∧ q.ignoredFilters = [] := by
  have hlisted : readListed repeated.text = .ok repeated := by
    refine readListed_text ⟨by decide, by decide⟩ ⟨by decide, by decide⟩ (fun entry h => ?settled)
      (fun n h => ?numbers)
    case settled =>
      simp only [repeated, filters, Option.getD_some, List.mem_cons, List.not_mem_nil,
        or_false] at h
      rcases h with rfl | rfl | rfl | rfl <;> rfl
    case numbers =>
      simp only [numbers, repeated, filters, Option.getD_some, List.flatMap_cons, List.flatMap_nil,
        Filter.numbers, List.nil_append, List.append_nil, List.mem_append, List.mem_singleton] at h
      rcases h with rfl | rfl <;> exact Json.Number.readsBack_integer _ _
  have hread : readValid repeated.text = .ok repeated.merge := by
    rw [readValid, read_eq_merge, hlisted]
    rfl
  obtain ⟨document, p, hdocument, -, hp, hlength, -, heach, -, -, halways, hplan⟩ :=
    filters_follow_document hread
  cases hdocument.symm.trans hlisted
  obtain ⟨f, hf, hgold, -⟩ := heach 1 "gold" (by decide)
  cases hf
  have hathlete : "athlete" ∈ p.ignoredFilters := by
    obtain ⟨f, hf, -, hignored⟩ := heach 0 "athlete" (by decide)
    cases hf
    exact hignored.mpr rfl
  refine ⟨hread, p, hp, hlength, (halways 1).mpr ⟨0, "athlete", rfl, by decide, hathlete⟩, hgold,
    ?_, _, hplan, rfl⟩
  cases hp
  decide

end GridRows
