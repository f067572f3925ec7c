import GridRows.Proofs.Filter
import GridRows.Proofs.FilterModel
import GridRows.Proofs.Json.Record
import GridRows.Request.Printer

/-!
# The wire format round-trips

Each record is read back from its own text.  For a request this asks that its row bounds fit a signed
word, that each column has one filter, and that every filter is settled (`Request.Sound`).  Whatever is
read is of that kind (`Request.read_sound`), so it is read back (`wire_round_trip`).
-/

namespace GridRows

open Json (Value Number Reader Shape Mismatch)
open Json.Reader

/-! ## What is written is read back -/

section Reading

variable {depth : Nat}

/-- A group column is read from its text. -/
lemma GroupColumn.reads_toJson (c : GroupColumn) :
    Reads (GroupColumn.shape.read (depth + 1)) c.toJson.chars c := by
  have fills : Fills (GroupColumn.shape.member depth)
      [("id", .string c.id), ("field", .string c.field)] {} ⟨some c.id, some c.field⟩ :=
    .cons (Shape.reads_member rfl rfl ((reads_string_value c.id).map _)) <|
    .cons (Shape.reads_member rfl rfl ((reads_string_value c.field).map _)) <|
    .nil _
  exact Shape.reads_object fills rfl

/-- A value column is read from its text. -/
lemma ValueColumn.reads_toJson (c : ValueColumn) :
    Reads (ValueColumn.shape.read (depth + 1)) c.toJson.chars c := by
  have fills : Fills (ValueColumn.shape.member depth)
      [("field", .string c.field), ("aggFunc", .string c.aggregate)] {}
      ⟨some c.field, some c.aggregate⟩ :=
    .cons (Shape.reads_member rfl rfl ((reads_string_value c.field).map _)) <|
    .cons (Shape.reads_member rfl rfl ((reads_string_value c.aggregate).map _)) <|
    .nil _
  exact Shape.reads_object fills rfl

/-- A sort direction is read from its name. -/
lemma SortDirection.reads_name (direction : SortDirection) :
    Reads (SortDirection.read depth) (Value.string direction.name).chars direction := by
  intro rest _
  have hname : ofName? direction.name = some direction := by cases direction <;> rfl
  have hread : Takes readName ((Value.string direction.name).chars ++ rest) direction rest := by
    rw [Value.chars]
    refine (takes_stringAs _ _ rest).bind.mpr ?_
    rw [hname]
    exact takes_pure.mpr ⟨rfl, rfl⟩
  rw [Value.chars, stringChars_append] at hread ⊢
  exact takes_peek.mpr hread

/-- A sort item is read from its text. -/
lemma SortItem.reads_toJson (i : SortItem) :
    Reads (SortItem.shape.read (depth + 1)) i.toJson.chars i := by
  have fills : Fills (SortItem.shape.member depth)
      [("colId", .string i.column), ("sort", .string i.direction.name)] {}
      ⟨some i.column, some i.direction⟩ :=
    .cons (Shape.reads_member rfl rfl ((reads_string_value i.column).map _)) <|
    .cons (Shape.reads_member rfl rfl ((SortDirection.reads_name i.direction).map _)) <|
    .nil _
  exact Shape.reads_object fills rfl

/-- The value is read back as an operand, at any depth. -/
def ReadsAsOperand (v : Value) : Prop := Leads v.chars ∧ ∀ depth, Reads (value depth) v.chars v

/-- A string is read from its text as an operand. -/
lemma readsAsOperand_string (s : String) : ReadsAsOperand (.string s) :=
  ⟨leads_string s, fun depth => reads_value_string depth s⟩

/-- A number that is read back is read as an operand. -/
lemma readsAsOperand_number {n : Number} (h : (Value.number n).ReadsBack) :
    ReadsAsOperand (.number n) := by
  refine ⟨?_, fun depth => reads_value_number depth h⟩
  rw [Value.chars]
  exact (leadsNumber_of_takes (Number.readsBack_iff.mp h)).leads

/-- The members that a filter is written with fill its draft, those that are absent left out. -/
lemma WireFilter.fills {w : WireFilter} (hoperand : ∀ v ∈ w.operand, ReadsAsOperand v)
    (hupper : ∀ v ∈ w.upper, ReadsAsOperand v) :
    Fills (Filter.shape.member depth)
      ([("filterType", .string w.kind)] ++
        (w.test.map fun test => ("type", Value.string test)).toList ++
        (w.operand.map fun operand => ("filter", operand)).toList ++
        (w.upper.map fun upper => ("filterTo", upper)).toList) {}
      ⟨some w.kind, w.test.map some, w.operand.map some, w.upper.map some⟩ := by
  obtain ⟨kind, test, operand, upper⟩ := w
  have hkind : Fills (Filter.shape.member depth) [("filterType", .string kind)] {}
      ⟨some kind, none, none, none⟩ :=
    .cons (Shape.reads_member rfl rfl ((reads_string_value kind).map _)) (.nil _)
  have htest : Fills (Filter.shape.member depth)
      (test.map fun test => ("type", Value.string test)).toList
      ⟨some kind, none, none, none⟩ ⟨some kind, test.map some, none, none⟩ := by
    refine .optional (by rintro rfl; rfl) ?_
    rintro test ⟨⟩
    have h : Reads (optional string) (Value.string test).chars (some test) :=
      reads_optional (leads_string test) (reads_string_value test)
    exact Shape.reads_member rfl rfl (h.map _)
  have hoperand : Fills (Filter.shape.member depth)
      (operand.map fun operand => ("filter", operand)).toList
      ⟨some kind, test.map some, none, none⟩
      ⟨some kind, test.map some, operand.map some, none⟩ := by
    refine .optional (by rintro rfl; rfl) ?_
    rintro operand ⟨⟩
    obtain ⟨hleads, hreads⟩ := hoperand operand rfl
    exact Shape.reads_member rfl rfl ((reads_optional hleads (hreads depth)).map _)
  have hupper : Fills (Filter.shape.member depth)
      (upper.map fun upper => ("filterTo", upper)).toList
      ⟨some kind, test.map some, operand.map some, none⟩
      ⟨some kind, test.map some, operand.map some, upper.map some⟩ := by
    refine .optional (by rintro rfl; rfl) ?_
    rintro upper ⟨⟩
    obtain ⟨hleads, hreads⟩ := hupper upper rfl
    exact Shape.reads_member rfl rfl ((reads_optional hleads (hreads depth)).map _)
  exact ((hkind.append htest).append hoperand).append hupper

/-- Taking off a mark that says a value is present changes nothing. -/
lemma join_map_some {α : Type} (o : Option α) : (o.map some).join = o := by
  cases o <;> rfl

/-- The draft of a written filter becomes the filter that its members make. -/
lemma WireFilter.finish_eq_ok {w : WireFilter} {f : Filter} :
    Filter.shape.finish ⟨some w.kind, w.test.map some, w.operand.map some, w.upper.map some⟩ = .ok f ↔
      Filter.ofWire w = .ok f := by
  have hw : (⟨w.kind, (w.test.map some).join, (w.operand.map some).join,
      (w.upper.map some).join⟩ : WireFilter) = w := by
    rw [join_map_some, join_map_some, join_map_some]
  constructor
  · intro h
    obtain ⟨kind, hkind, h⟩ := bind_eq_ok.mp h
    cases hkind
    split at h
    · rename_i hf
      cases h
      exact hw ▸ hf
    · cases h
  · intro h
    refine bind_eq_ok.mpr ⟨w.kind, rfl, ?_⟩
    dsimp only
    rw [hw, h]
    rfl

/-- What is read of a written filter is what its wire form stands for. -/
lemma Filter.takes_toJson {f g : Filter} {rest out : List Char}
    (h : ∀ n ∈ f.numbers, (Value.number n).ReadsBack) :
    Takes (Filter.shape.read (depth + 1)) (f.toJson.chars ++ rest) g out ↔
      ofWire f.toWire = .ok g ∧ out = rest := by
  have hoperand : ∀ v ∈ f.toWire.operand, ReadsAsOperand v := by
    cases f with
    | text test s =>
      rintro _ ⟨⟩
      exact readsAsOperand_string s
    | number c n =>
      rintro _ ⟨⟩
      exact readsAsOperand_number (h n (.head _))
    | inRange low high =>
      rintro _ ⟨⟩
      exact readsAsOperand_number (h low (.head _))
    | unsupported => exact nofun
  have hupper : ∀ v ∈ f.toWire.upper, ReadsAsOperand v := by
    cases f with
    | inRange low high =>
      rintro _ ⟨⟩
      exact readsAsOperand_number (h high (.tail _ (.head _)))
    | _ => exact nofun
  rw [← WireFilter.finish_eq_ok]
  exact Shape.takes_read_object (WireFilter.fills hoperand hupper) rest out

/-- A settled filter is read from its text if its numbers are read back. -/
lemma Filter.reads_toJson {f : Filter} (hsettled : f.Settled)
    (h : ∀ n ∈ f.numbers, (Value.number n).ReadsBack) :
    Reads (Filter.shape.read (depth + 1)) f.toJson.chars f :=
  fun _ _ => (takes_toJson h).mpr ⟨hsettled, rfl⟩

/-- The filters of a model of which each column occurs once. -/
structure FilterModel.Sound (model : List (String × Filter)) : Prop where
  nodup : (model.map Prod.fst).Nodup
  settled : ∀ entry ∈ model, entry.2.Settled

namespace FilterModel

/-- Filters of different columns are read into the map in their order. -/
lemma fills {front back : List (String × Filter)} (hnodup : ((front ++ back).map Prod.fst).Nodup)
    (h : ∀ entry ∈ back, Reads (Filter.shape.read depth) entry.2.toJson.chars entry.2) :
    Fills (member depth) (back.map fun entry => (entry.1, entry.2.toJson)) front (front ++ back) := by
  induction back generalizing front with
  | nil =>
    rw [List.append_nil]
    exact .nil front
  | cons entry back ih =>
    obtain ⟨column, f⟩ := entry
    obtain ⟨hf, hback⟩ := List.forall_mem_cons.mp h
    -- a column that is not there yet goes last, so what is read keeps the order of the text
    have hnew : column ∉ front.map Prod.fst := by
      intro hmem
      rw [List.map_append] at hnodup
      exact (List.nodup_append.mp hnodup).2.2 column hmem column (.head _) rfl
    have hmember : Reads (member depth column front) (':' :: f.toJson.chars)
        (front ++ [(column, f)]) := by
      rw [← insert_of_notMem hnew]
      exact fun rest hs => (takes_colon _).bind.mpr (hf.map _ rest hs)
    rw [List.append_cons] at hnodup ⊢
    exact .cons hmember (ih hnodup hback)

/-- The map of filters is read from the text of an object whose members fill it. -/
lemma reads_with {member : MemberReader} {model : List (String × Filter)}
    (h : Fills (member (depth + 1)) (model.map fun entry => (entry.1, entry.2.toJson)) [] model) :
    Reads (readWith member (depth + 2))
      (Value.object (model.map fun entry => (entry.1, entry.2.toJson))).chars model := by
  intro rest _
  rw [Value.chars, List.cons_append, List.cons_append, List.append_assoc]
  exact takes_peek.mpr ((takes_descend (depth + 1) _).bind.mpr (takes_set.mpr
    (takes_objectRest h rest)))

end FilterModel

/-- A row bound that a signed word of 64 bits holds. -/
def InWord (n : Int) : Prop := -0x8000000000000000 ≤ n ∧ n < 0x8000000000000000

/-- A bound is read from its text if it fits a word. -/
lemma reads_rowToJson {n : Int} (h : InWord n) : Reads int64 (rowToJson n).chars n := by
  have fits : Json.FitsWord n := ⟨h.1, Int.lt_trans h.2 (by decide)⟩
  have hrow : rowToJson n = .number (.integer n fits) := by
    rw [rowToJson, Number.ofInt?, dif_pos fits]
    rfl
  rw [hrow, Value.chars]
  exact reads_int64 h.1 h.2

/-- The numbers that the filters of a request compare with. -/
def Request.numbers (r : Request) : List Number := r.filters.flatMap (·.2.numbers)

/-- What holds of every request that is read, whether or not it is valid. -/
structure Request.Sound (r : Request) : Prop where
  startRow : InWord r.startRow
  endRow : InWord r.endRow
  filterModel : ∀ model ∈ r.filterModel, FilterModel.Sound model

/-- A request is read back if its filter model is, however that is read. -/
lemma Request.reads_with {member : FilterModel.MemberReader} {r : Request}
    (hstart : InWord r.startRow) (hend : InWord r.endRow)
    (hmodel : ∀ model ∈ r.filterModel, Reads (FilterModel.readWith member (depth + 2))
      (Value.object (model.map fun entry => (entry.1, entry.2.toJson))).chars model) :
    Reads ((shapeWith member).read (depth + 3)) r.toJson.chars r := by
  have hgroups : Reads (sequence (depth + 2) GroupColumn.shape.read)
      (Value.array (r.groupColumns.map GroupColumn.toJson)).chars r.groupColumns :=
    reads_sequence fun c _ => ⟨leads_object _, c.reads_toJson⟩
  have hkeys : Reads (sequence (depth + 2) fun _ => string)
      (Value.array (r.groupKeys.map .string)).chars r.groupKeys :=
    reads_sequence fun key _ => ⟨leads_string key, reads_string_value key⟩
  have hvalues : Reads (sequence (depth + 2) ValueColumn.shape.read)
      (Value.array (r.valueColumns.map ValueColumn.toJson)).chars r.valueColumns :=
    reads_sequence fun c _ => ⟨leads_object _, c.reads_toJson⟩
  have hfilters : Reads (optional (FilterModel.readWith member (depth + 2)))
      ((r.filterModel.map fun model =>
        Value.object (model.map fun entry => (entry.1, entry.2.toJson))).getD .null).chars
      r.filterModel :=
    reads_optional_getD fun model h => ⟨leads_object _, hmodel model h⟩
  have hsorts : Reads (optional (sequence (depth + 2) SortItem.shape.read))
      ((r.sortModel.map fun items => Value.array (items.map SortItem.toJson)).getD .null).chars
      r.sortModel :=
    reads_optional_getD fun items _ =>
      ⟨leads_array _, reads_sequence fun i _ => ⟨leads_object _, i.reads_toJson⟩⟩
  have fills : Fills ((Request.shapeWith member).member (depth + 2))
      [("tableName", .string r.table),
        ("rowGroupCols", .array (r.groupColumns.map GroupColumn.toJson)),
        ("groupKeys", .array (r.groupKeys.map .string)),
        ("valueCols", .array (r.valueColumns.map ValueColumn.toJson)),
        ("filterModel", (r.filterModel.map fun model =>
          Value.object (model.map fun entry => (entry.1, entry.2.toJson))).getD .null),
        ("sortModel", (r.sortModel.map fun items =>
          Value.array (items.map SortItem.toJson)).getD .null),
        ("startRow", rowToJson r.startRow), ("endRow", rowToJson r.endRow)] {}
      ⟨some r.table, some r.groupColumns, some r.groupKeys, some r.valueColumns,
        some r.filterModel, some r.sortModel, some r.startRow, some r.endRow⟩ :=
    .cons (Shape.reads_member rfl rfl ((reads_string_value r.table).map _)) <|
    .cons (Shape.reads_member rfl rfl (hgroups.map _)) <|
    .cons (Shape.reads_member rfl rfl (hkeys.map _)) <|
    .cons (Shape.reads_member rfl rfl (hvalues.map _)) <|
    .cons (Shape.reads_member rfl rfl (hfilters.map _)) <|
    .cons (Shape.reads_member rfl rfl (hsorts.map _)) <|
    .cons (Shape.reads_member rfl rfl ((reads_rowToJson hstart).map _)) <|
    .cons (Shape.reads_member rfl rfl ((reads_rowToJson hend).map _)) <|
    .nil _
  unfold toJson
  dsimp only
  rw [Option.map_map, Option.map_map]
  exact Shape.reads_object fills rfl

/-- A request is read from its text if its numbers are read back. -/
lemma Request.reads_toJson {r : Request} (hr : r.Sound)
    (h : ∀ n ∈ r.numbers, (Value.number n).ReadsBack) :
    Reads (Request.shape.read (depth + 3)) r.toJson.chars r := by
  rw [← shapeWith_member]
  refine reads_with hr.startRow hr.endRow fun model hmodel => ?_
  obtain ⟨hnodup, hsettled⟩ := hr.filterModel model hmodel
  refine FilterModel.reads_with (FilterModel.fills hnodup fun entry hentry => ?_)
  refine Filter.reads_toJson (hsettled entry hentry) fun n hn => h n ?_
  rw [numbers, filters, hmodel]
  exact List.mem_flatMap.mpr ⟨entry, hentry, hn⟩

end Reading

/-! ## What is read -/

section Sound

/-- Every filter that is read is settled. -/
lemma Filter.ensures_read (depth : Nat) : Ensures (Filter.shape.read depth) Filter.Settled := by
  refine Shape.ensures_read (I := fun _ => True) trivial (fun _ _ _ _ _ => .trivial _) ?_ depth
  intro d f _ h
  obtain ⟨kind, -, h⟩ := bind_eq_ok.mp h
  split at h
  · cases h
    exact settled_of_ofWire ‹_›
  · cases h

namespace FilterModel

/-- A map stays sound when a settled filter is inserted. -/
lemma Sound.insert {column : String} {f : Filter} {model : List (String × Filter)}
    (h : Sound model) (hf : f.Settled) : Sound (insert column f model) := by
  induction model with
  | nil =>
    exact ⟨List.nodup_cons.mpr ⟨List.not_mem_nil, List.nodup_nil⟩, List.forall_mem_singleton.mpr hf⟩
  | cons entry model ih =>
    obtain ⟨hnew, hnodup⟩ := List.nodup_cons.mp h.nodup
    obtain ⟨hentry, hrest⟩ := List.forall_mem_cons.mp h.settled
    rw [FilterModel.insert]
    split
    · exact ⟨h.nodup, List.forall_mem_cons.mpr ⟨hf, hrest⟩⟩
    · rename_i hne
      have hsound := ih ⟨hnodup, hrest⟩
      refine ⟨List.nodup_cons.mpr ⟨fun hmem => ?_, hsound.nodup⟩,
        List.forall_mem_cons.mpr ⟨hentry, hsound.settled⟩⟩
      rcases mem_keys_insert hmem with h | h
      · exact hne h
      · exact hnew h

/-- Every map of filters that is read is sound. -/
lemma ensures_read (depth : Nat) : Ensures (FilterModel.read depth) Sound := by
  have hnil : Sound [] := ⟨List.nodup_nil, List.forall_mem_nil _⟩
  refine .after fun cs => ?_
  split
  · refine .after fun depth => .after fun _ => ensures_objectRest (fun _ model hmodel => ?_) hnil
    exact .after fun _ => (Filter.ensures_read depth).map fun f hf => hmodel.insert hf
  · exact ensures_wrongType _

end FilterModel

/-- What is required and not refused is there. -/
lemma require_inv {α : Type} {name : String} {o : Option α} {a : α}
    (h : Mismatch.require name o = .ok a) : o = some a := by
  cases o with
  | none => cases h
  | some _ =>
    cases h
    rfl

namespace Request

/-- What holds of a draft while its fields are read. -/
structure Draft.Sound (d : Draft) : Prop where
  startRow : ∀ n ∈ d.startRow, InWord n
  endRow : ∀ n ∈ d.endRow, InWord n
  filterModel : ∀ model? ∈ d.filterModel, ∀ model ∈ model?, FilterModel.Sound model

/-- The empty draft is sound. -/
lemma Draft.Sound.empty : Draft.Sound {} where
  startRow := by rintro _ ⟨⟩
  endRow := by rintro _ ⟨⟩
  filterModel := by rintro _ ⟨⟩

/-- Every field keeps a draft sound. -/
lemma Draft.Sound.field {d : Draft} (hd : d.Sound) {field : Json.Field Draft}
    (hfield : field ∈ shape.fields) (depth : Nat) : Ensures (field.read depth d) Draft.Sound := by
  -- one case for each field; only the filter model and the two bounds have to satisfy anything
  simp only [shape, List.mem_cons, List.not_mem_nil, or_false] at hfield
  rcases hfield with rfl | rfl | rfl | rfl | rfl | rfl | rfl | rfl
  · exact (Ensures.trivial _).map fun _ _ => ⟨hd.startRow, hd.endRow, hd.filterModel⟩
  · exact (Ensures.trivial _).map fun _ _ => ⟨hd.startRow, hd.endRow, hd.filterModel⟩
  · exact (Ensures.trivial _).map fun _ _ => ⟨hd.startRow, hd.endRow, hd.filterModel⟩
  · exact (Ensures.trivial _).map fun _ _ => ⟨hd.startRow, hd.endRow, hd.filterModel⟩
  · refine (ensures_optional (FilterModel.ensures_read depth)).map fun model? h =>
      ⟨hd.startRow, hd.endRow, ?_⟩
    rintro _ ⟨⟩
    exact h
  · exact (Ensures.trivial _).map fun _ _ => ⟨hd.startRow, hd.endRow, hd.filterModel⟩
  · refine ensures_int64.map fun n hn => ⟨?_, hd.endRow, hd.filterModel⟩
    rintro _ ⟨⟩
    exact hn
  · refine ensures_int64.map fun n hn => ⟨hd.startRow, ?_, hd.filterModel⟩
    rintro _ ⟨⟩
    exact hn

/-- What becomes of a sound draft is a sound request. -/
lemma Draft.Sound.finish {d : Draft} (hd : d.Sound) {r : Request} (h : shape.finish d = .ok r) :
    r.Sound := by
  obtain ⟨table, -, h⟩ := bind_eq_ok.mp h
  obtain ⟨startRow, hstart, h⟩ := bind_eq_ok.mp h
  obtain ⟨endRow, hend, h⟩ := bind_eq_ok.mp h
  cases h
  refine ⟨hd.startRow startRow (require_inv hstart), hd.endRow endRow (require_inv hend), ?_⟩
  intro model hmodel
  exact hd.filterModel (some model) (Option.join_eq_some_iff.mp hmodel) model rfl

/-- Every request that is taken is sound. -/
lemma ensures_read (depth : Nat) : Ensures (shape.read depth) Request.Sound :=
  Shape.ensures_read (I := Draft.Sound) .empty (fun _ hf depth _ hd => hd.field hf depth)
    (fun _ _ hd h => hd.finish h) depth

end Request

end Sound

/-! ## Round trips -/

/-- Every request that is read is sound. -/
lemma Request.read_sound {text : String} {r : Request} (h : Request.read text = .ok r) : r.Sound := by
  obtain ⟨rest, htakes, -⟩ := run_eq_ok.mp h
  exact ensures_read _ _ r rest htakes

/-- Only floats may fail to be read back, so it is enough to ask about them. -/
lemma readsBack_of_floats {numbers : List Number}
    (h : ∀ x, .float x ∈ numbers → (Value.number (.float x)).ReadsBack) :
    ∀ n ∈ numbers, (Value.number n).ReadsBack := by
  intro n hn
  cases n with
  | integer n fits => exact Number.readsBack_integer n fits
  | float x => exact h x hn

/--
Every request that a text is read as is read back from its own text, which writing it once more does
not change.  A filter of any making is read back from its own text if and only if it does not keep a
typed test as one that is not supported, and compares with no number that reading would replace.
Of the texts of binary numbers it is assumed that they are read back, of all others it is proved.
-/
theorem wire_round_trip :
    (∀ text r, Request.read text = .ok r →
      (∀ x, .float x ∈ r.numbers → (Value.number (.float x)).ReadsBack) →
      Request.read r.text = .ok r ∧ (Request.read r.text).map Request.text = .ok r.text) ∧
    ∀ f : Filter, (∀ x, .float x ∈ f.numbers → (Value.number (.float x)).ReadsBack) →
      (Filter.read f.toJson.text = .ok f ↔
        (∀ kind name, f = .unsupported kind (some name) → (kind, name) ∉ knownTests) ∧
          ∀ n ∈ f.numbers, wholeIfExact n = n) := by
  constructor
  · intro text r hread hfloats
    have hreads : Reads (Request.shape.read (124 + 3)) r.toJson.chars r :=
      Request.reads_toJson (Request.read_sound hread) (readsBack_of_floats hfloats)
    have hback : Request.read r.text = .ok r := hreads.run
    refine ⟨hback, ?_⟩
    rw [hback]
    rfl
  · intro f hfloats
    have hnumbers := readsBack_of_floats hfloats
    rw [← Filter.settled_iff]
    constructor
    · intro h
      obtain ⟨rest, htakes, -⟩ := run_eq_ok.mp h
      rw [Value.text, String.toList_ofList, ← List.append_nil f.toJson.chars] at htakes
      exact ((Filter.takes_toJson hnumbers).mp htakes).1
    · exact fun hsettled => (Filter.reads_toJson hsettled hnumbers).run

/-- The binary number one half. -/
def half : GridRows.Number.Double := ⟨false, 1 <<< 52, 1021, by decide, .inr (by decide), by decide⟩

/-- A page of medals with half a gold medal or more, as a client sends it. -/
def medalsBody : Value :=
  .object [("endRow", .number (.integer 20 (by decide))),
    ("startRow", .number (.integer 10 (by decide))), ("sortModel", .array []),
    ("filterModel", .object [
      ("year", .object [("filterType", .string "date"), ("type", .string "equals")]),
      ("gold", .object [("type", .string "inRange"), ("filter", .number (.float half)),
        ("filterTo", .number (.integer 2 (by decide))), ("filterType", .string "number")])]),
    ("tableName", .string "medals")]

/-- The request that the page is read as. -/
def medalsRequest : Request where
  table := "medals"
  groupColumns := []
  groupKeys := []
  valueColumns := []
  filterModel := some [("year", .unsupported "date" (some "equals")),
    ("gold", .inRange (.float half) (.integer 2 (by decide)))]
  sortModel := some []
  startRow := 10
  endRow := 20

/-- Only a success is kept as an option. -/
lemma ok_of_toOption {ε α : Type} {e : Except ε α} {a : α} (h : e.toOption = some a) :
    e = .ok a := by
  cases e with
  | error fault => cases h
  | ok found =>
    cases h
    rfl

/--
The request and the range are read back from their texts, but no filter of a known test stays
unsupported.
-/
theorem wire_round_trip_medals :
    Request.read medalsBody.text = .ok medalsRequest ∧
      Request.read medalsRequest.text = .ok medalsRequest ∧
      Filter.read (Filter.inRange (.float half) (.integer 2 (by decide))).toJson.text =
        .ok (.inRange (.float half) (.integer 2 (by decide))) ∧
      Filter.read (Filter.unsupported "text" (some "equals")).toJson.text ≠
        .ok (.unsupported "text" (some "equals")) := by
  have hhalf : (Value.number (.float half)).ReadsBack := by
    have hnumber : (StateT.run Json.Reader.number (Number.float half).text).toOption =
        some (.float half, []) := by
      decide +kernel
    exact Number.readsBack_iff.mpr (ok_of_toOption hnumber)
  have hread : Request.read medalsBody.text = .ok medalsRequest := by
    have htakes : (StateT.run (Request.shape.read Json.maxDepth) medalsBody.chars).toOption =
        some (medalsRequest, []) := by
      decide +kernel
    refine run_eq_ok.mpr ⟨[], ?_, rfl⟩
    rw [Value.text, String.toList_ofList]
    exact ok_of_toOption htakes
  have hfloats : ∀ x, Number.float x ∈ [Number.float half, .integer 2 (by decide)] →
      (Value.number (.float x)).ReadsBack := by
    intro x hx
    simp only [List.mem_cons, List.not_mem_nil, or_false, reduceCtorEq] at hx
    cases hx
    exact hhalf
  obtain ⟨hrequests, hfilters⟩ := wire_round_trip
  refine ⟨hread, (hrequests medalsBody.text medalsRequest hread hfloats).1, ?_, ?_⟩
  · refine (hfilters (.inRange (.float half) (.integer 2 (by decide))) hfloats).mpr ⟨?_, ?_⟩
    · rintro _ _ ⟨⟩
    · decide +kernel
  · intro h
    have hfloats (x) (hx : Number.float x ∈ []) : (Value.number (.float x)).ReadsBack :=
      absurd hx List.not_mem_nil
    have hunknown := ((hfilters (.unsupported "text" (some "equals")) hfloats).mp h).1
    exact hunknown "text" "equals" rfl (by decide)

end GridRows
