import GridRows.Proofs.FilterModel
import GridRows.Proofs.Json.Spelling

/-!
# Requests as they are written

A request is read as one that is written, of which the operands of the filters keep their spelling
(`SpelledRequest.read_plain`).  So of what is read it can be told how it was spelled.
-/

namespace GridRows

open Json (Mismatch Reader ReadError Shape Written)

/-! ## Filters as they are written -/

/-- A filter that was read, with its operands as they are written. -/
structure SpelledFilter where
  kind : String
  test : Option String
  operand : Option Written
  upper : Option Written
  filter : Filter
  stands : Filter.ofWire ⟨kind, test, operand.map (·.value), upper.map (·.value)⟩ = .ok filter

namespace SpelledFilter

/-- What has been read of a filter, with its operands as they are written. -/
structure Draft where
  kind : Option String := none
  test : Option (Option String) := none
  operand : Option (Option Written) := none
  upper : Option (Option Written) := none

/-- The same without the spelling. -/
def Draft.plain (d : Draft) : Filter.Draft :=
  ⟨d.kind, d.test, d.operand.map (·.map (·.value)), d.upper.map (·.map (·.value))⟩

/-- The wire form of a filter whose operands keep their spelling. -/
def shape : Shape Draft SpelledFilter where
  title := "struct RawFilter"
  fields :=
    [⟨"filterType", true, (·.kind.isSome), fun _ d => return { d with kind := ← Reader.string }⟩,
     ⟨"type", false, (·.test.isSome),
      fun _ d => return { d with test := some (← Reader.optional Reader.string) }⟩,
     ⟨"filter", false, (·.operand.isSome),
      fun depth d => return { d with operand := some (← Reader.optional (Reader.written depth)) }⟩,
     ⟨"filterTo", false, (·.upper.isSome),
      fun depth d => return { d with upper := some (← Reader.optional (Reader.written depth)) }⟩]
  empty := {}
  finish d := do
    let kind ← Mismatch.require "filterType" d.kind
    match h : Filter.ofWire
      ⟨kind, d.test.join, d.operand.join.map (·.value), d.upper.join.map (·.value)⟩ with
    | .ok filter => return ⟨kind, d.test.join, d.operand.join, d.upper.join, filter, h⟩
    | .error fault => throw (.rule fault.message)

/-- Every field of a filter does the same with the spelling as without it. -/
lemma fields_follow :
    List.Forall₂ (Json.Field.Follows Draft.plain) Filter.shape.fields shape.fields := by
  have hoptional (depth : Nat) : Reader.optional (Reader.value depth) =
      Option.map (·.value) <$> Reader.optional (Reader.written depth) := by
    rw [Reader.value_follows]
    exact Reader.optional_follows _ _
  refine .cons ?_ (.cons ?_ (.cons ?operand (.cons ?upper .nil)))
  case operand =>
    exact ⟨rfl, rfl, fun _ => Option.isSome_map, fun depth d =>
      Reader.drafts_follow (hoptional depth) fun _ => rfl⟩
  case upper =>
    exact ⟨rfl, rfl, fun _ => Option.isSome_map, fun depth d =>
      Reader.drafts_follow (hoptional depth) fun _ => rfl⟩
  all_goals exact ⟨rfl, rfl, fun _ => rfl, fun _ _ => Reader.bind_follows fun _ => rfl⟩

/-- A draft is finished to the filter that the spelled one stands for. -/
lemma finish_plain (d : Draft) : Filter.shape.finish d.plain = (shape.finish d).map filter := by
  have hoperand : d.plain.operand.join = d.operand.join.map (·.value) := Option.join_map_eq_map_join
  have hupper : d.plain.upper.join = d.upper.join.map (·.value) := Option.join_map_eq_map_join
  unfold Filter.shape shape
  dsimp only
  rw [hoperand, hupper]
  unfold Draft.plain
  dsimp only
  cases d.kind with
  | none => rfl
  | some kind =>
    dsimp only [Mismatch.require, bind, Except.bind]
    split
    · rename_i f hf
      split
      · rename_i f' hf'
        cases hf.symm.trans hf'
        rfl
      · rename_i fault hfault
        cases hf.symm.trans hfault
    · rename_i fault hfault
      split
      · rename_i f hf
        cases hfault.symm.trans hf
      · rename_i fault' hfault'
        cases hfault.symm.trans hfault'
        rfl

/-- A filter is read as the one that is written. -/
lemma read_follows (depth : Nat) : Filter.shape.read depth = filter <$> shape.read depth := by
  refine Shape.read_follows ?title fields_follow ?empty finish_plain depth
  case title => rfl
  case empty => rfl

end SpelledFilter

/-! ## Requests as they are written -/

/-- The filters of a filter model in the order of the text, as they are written. -/
abbrev SpelledModel := List (String × SpelledFilter)

namespace SpelledModel

/-- The filter model without the spelling. -/
def plain (model : SpelledModel) : List (String × Filter) :=
  FilterModel.ofMembers (model.map fun entry => (entry.1, entry.2.filter))

/-- Takes the rest of a member of a filter model, behind all members before it. -/
def member (depth : Nat) (column : String) (found : SpelledModel) : Reader SpelledModel := do
  Reader.colon
  return found ++ [(column, ← SpelledFilter.shape.read depth)]

/-- Takes a filter model as it is written. -/
def read (depth : Nat) : Reader SpelledModel := Reader.mapWith member [] depth

/-- A filter is read with its spelling as it is without it. -/
lemma member_follows (depth : Nat) (column : String) (found : SpelledModel) :
    FilterModel.member depth column (plain found) = plain <$> member depth column found := by
  refine Reader.bind_follows fun _ => ?_
  refine Reader.drafts_follow (SpelledFilter.read_follows depth) fun f => ?_
  have happend : plain (found ++ [(column, f)]) = FilterModel.insert column f.filter (plain found) := by
    rw [plain, List.map_append]
    exact FilterModel.ofMembers_append column f.filter
  rw [map_pure, happend]

-- by definition `FilterModel.read` is `Reader.mapWith` of its own members
/-- A map of filters is read with the spelling as it is without it. -/
lemma read_follows (depth : Nat) : FilterModel.read depth = plain <$> read depth :=
  Reader.mapWith_follows member_follows [] depth

end SpelledModel

/-- A request that was read, whose filter model is as it is written. -/
structure SpelledRequest where
  /-- The request without its filter model. -/
  rest : Request
  model : Option SpelledModel

namespace SpelledRequest

/-- The request without the spelling. -/
def plain (s : SpelledRequest) : Request :=
  { s.rest with filterModel := s.model.map SpelledModel.plain }

/-- What has been read of a request, its filter model as it is written. -/
structure Draft where
  rest : Request.Draft := {}
  model : Option (Option SpelledModel) := none

/-- The same without the spelling. -/
def Draft.plain (d : Draft) : Request.Draft :=
  { d.rest with filterModel := d.model.map (·.map SpelledModel.plain) }

/-- A field other than the filter model. -/
def restField (field : Json.Field Request.Draft) : Json.Field Draft where
  name := field.name
  required := field.required
  isSet d := field.isSet d.rest
  read depth d := return { d with rest := ← field.read depth d.rest }

/-- The wire form of a request whose filter model keeps its spelling. -/
def shape : Shape Draft SpelledRequest where
  title := Request.shape.title
  fields := (Request.shape.fields.map restField).set 4
    ⟨"filterModel", false, (·.model.isSome),
      fun depth d => return { d with model := some (← Reader.optional (SpelledModel.read depth)) }⟩
  empty := {}
  finish d := return ⟨← Request.shape.finish d.rest, d.model.join⟩

/-- Reads a text as a request whose numbers keep their spelling. -/
def read (text : String) : Except ReadError SpelledRequest :=
  Reader.run (shape.read Json.maxDepth) text

/-- Every field of a request does the same with the spelling as without it. -/
lemma fields_follow :
    List.Forall₂ (Json.Field.Follows Draft.plain) Request.shape.fields shape.fields := by
  have hmodel (depth : Nat) : Reader.optional (FilterModel.read depth) =
      Option.map SpelledModel.plain <$> Reader.optional (SpelledModel.read depth) := by
    rw [SpelledModel.read_follows]
    exact Reader.optional_follows _ _
  refine .cons ?_ (.cons ?_ (.cons ?_ (.cons ?_ (.cons ?model (.cons ?_ (.cons ?_ (.cons ?_ .nil)))))))
  case model =>
    exact ⟨rfl, rfl, fun _ => Option.isSome_map, fun depth d =>
      Reader.drafts_follow (hmodel depth) fun _ => rfl⟩
  all_goals exact ⟨rfl, rfl, fun _ => rfl, fun depth d => by
    simp only [restField, bind_assoc]
    exact Reader.bind_follows fun _ => rfl⟩

/-- A draft is finished to the request that the spelled one stands for. -/
lemma finish_plain (d : Draft) : Request.shape.finish d.plain = (shape.finish d).map plain := by
  have hmodel : d.plain.filterModel.join = d.model.join.map SpelledModel.plain :=
    Option.join_map_eq_map_join
  unfold shape Request.shape
  dsimp only
  rw [hmodel]
  unfold Draft.plain
  dsimp only
  cases d.rest.table with
  | none => rfl
  | some table =>
    cases d.rest.startRow with
    | none => rfl
    | some startRow =>
      cases d.rest.endRow with
      | none => rfl
      | some endRow => rfl

/-- A request is read as the one that is written. -/
lemma read_plain (text : String) : Request.read text = (read text).map plain := by
  have hread : Request.shape.read Json.maxDepth = plain <$> shape.read Json.maxDepth := by
    refine Shape.read_follows ?title fields_follow ?empty finish_plain Json.maxDepth
    case title => rfl
    case empty => rfl
  rw [Request.read, hread, Reader.run_map, read]

end SpelledRequest

end GridRows
