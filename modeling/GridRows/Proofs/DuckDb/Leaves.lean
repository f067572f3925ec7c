import GridRows.DuckDb.Value
import GridRows.Proofs.Json.Members

/-!
# The scalars of converted values

A value is a scalar or is made of the values it contains, which are converted on their own: a list
becomes an array in the same order, a map an array of pairs, a union what it holds.  A structure becomes
an object, whose members are sorted by name.  So a conversion rearranges the scalars if no structure
repeats a name, and keeps their order if there is no structure at all (`Value.leaves_toJson`).
-/

namespace GridRows

namespace Json

mutual

/-- The scalars that the value is made of, from left to right. -/
def Value.leaves : Value → List Value
  | .array items => itemLeaves items
  | .object members => memberLeaves members
  | .null => [.null]
  | .boolean b => [.boolean b]
  | .number n => [.number n]
  | .string s => [.string s]

/-- The scalars of the items of an array. -/
def itemLeaves : List Value → List Value
  | [] => []
  | item :: rest => item.leaves ++ itemLeaves rest

/-- The scalars of the members of an object. -/
def memberLeaves : List (String × Value) → List Value
  | [] => []
  | (_, value) :: rest => value.leaves ++ memberLeaves rest

end

/-- The leaves of items are those of each item, in order. -/
lemma itemLeaves_eq (items : List Value) : itemLeaves items = items.flatMap Value.leaves := by
  induction items with
  | nil => rfl
  | cons item items ih => rw [itemLeaves, ih, List.flatMap_cons]

/-- The leaves of members are those of their values, in order. -/
lemma memberLeaves_eq (members : List (String × Value)) :
    memberLeaves members = members.flatMap (·.2.leaves) := by
  induction members with
  | nil => rfl
  | cons member members ih => rw [memberLeaves, ih, List.flatMap_cons]

end Json

namespace DuckDb

mutual

/-- The scalars that the value is made of, from left to right; a map has its keys among them. -/
def Value.leaves : Value → List Value
  | .list items => itemLeaves items
  | .array items => itemLeaves items
  | .struct fields => fieldLeaves fields
  | .map entries => entryLeaves entries
  | .union inner => inner.leaves
  | scalar => [scalar]

/-- The scalars of the items of a list. -/
def itemLeaves : List Value → List Value
  | [] => []
  | item :: rest => item.leaves ++ itemLeaves rest

/-- The scalars of the fields of a structure. -/
def fieldLeaves : List (String × Value) → List Value
  | [] => []
  | (_, value) :: rest => value.leaves ++ fieldLeaves rest

/-- The scalars of the entries of a map. -/
def entryLeaves : List (Value × Value) → List Value
  | [] => []
  | (key, value) :: rest => key.leaves ++ value.leaves ++ entryLeaves rest

end

/-! ## One level of a conversion -/

/-- The leaves of items are those of each item, in order. -/
lemma itemLeaves_eq (items : List Value) : itemLeaves items = items.flatMap Value.leaves := by
  induction items with
  | nil => rfl
  | cons item items ih => rw [itemLeaves, ih, List.flatMap_cons]

/-- The leaves of fields are those of their values, in order. -/
lemma fieldLeaves_eq (fields : List (String × Value)) :
    fieldLeaves fields = fields.flatMap (·.2.leaves) := by
  induction fields with
  | nil => rfl
  | cons field fields ih => rw [fieldLeaves, ih, List.flatMap_cons]

/-- The leaves of entries are those of each key and its value, in order. -/
lemma entryLeaves_eq (entries : List (Value × Value)) :
    entryLeaves entries = entries.flatMap fun entry => entry.1.leaves ++ entry.2.leaves := by
  induction entries with
  | nil => rfl
  | cons entry entries ih => rw [entryLeaves, ih, List.flatMap_cons]

/-- Items are shown one by one. -/
lemma itemsToJson_eq (items : List Value) : itemsToJson items = items.map Value.toJson := by
  induction items with
  | nil => rfl
  | cons item items ih => rw [itemsToJson, ih, List.map_cons]

/-- An entry of a map is shown as an array of its key and its value. -/
lemma entriesToJson_eq (entries : List (Value × Value)) :
    entriesToJson entries = entries.map fun entry => .array [entry.1.toJson, entry.2.toJson] := by
  induction entries with
  | nil => rfl
  | cons entry entries ih => rw [entriesToJson, ih, List.map_cons]

/-- The members that the fields become, in which a name may still occur twice. -/
def memberPairs (fields : List (String × Value)) : List (String × Json.Value) :=
  fields.map fun field => (field.1, field.2.toJson)

/-- The fields of a struct become the members of an object, which sorts them. -/
lemma fieldsToJson_eq (fields : List (String × Value)) :
    fieldsToJson [] fields = Json.Members.ofList (memberPairs fields) := by
  suffices h : ∀ before, fieldsToJson before fields =
      (memberPairs fields).foldl (fun members pair => members.insert pair.1 pair.2) before from h []
  induction fields with
  | nil => exact fun before => rfl
  | cons field fields ih => exact fun before => ih (before.insert field.1 field.2.toJson)

/-- The members are named as the fields. -/
lemma keys_memberPairs (fields : List (String × Value)) :
    (memberPairs fields).map Prod.fst = fields.map Prod.fst := List.map_map

namespace Value

/-- The values that the value is made of. -/
def children : Value → List Value
  | .list items => items
  | .array items => items
  | .struct fields => fields.map Prod.snd
  | .map entries => entries.flatMap fun entry => [entry.1, entry.2]
  | .union inner => [inner]
  | _ => []

/-- The value is not made of others, not even of none. -/
def IsScalar : Value → Prop
  | .list _ | .array _ | .struct _ | .map _ | .union _ => False
  | _ => True

/-- The names of the fields of a structure. -/
def fieldNames : Value → List String
  | .struct fields => fields.map Prod.fst
  | _ => []

/-- The value is a structure. -/
def IsStruct : Value → Prop
  | .struct _ => True
  | _ => False

/-- The value and all values inside it have the property. -/
inductive Everywhere (P : Value → Prop) : Value → Prop
  | intro {v : Value} (here : P v) (below : ∀ child ∈ v.children, Everywhere P child) :
      Everywhere P v

/-- No structure has two fields of one name. -/
def DistinctNames : Value → Prop := Everywhere (·.fieldNames.Nodup)

/-- There is no structure. -/
def StructFree : Value → Prop := Everywhere (¬ ·.IsStruct)

variable {v : Value}

/-- A scalar has no names, so none is repeated. -/
lemma distinctNames_scalar (h : v.IsScalar) : v.DistinctNames := by
  cases v with
  | list | array | struct | map | union => exact h.elim
  | _ => exact .intro .nil fun _ hchild => absurd hchild List.not_mem_nil

/-- A list is shown as an array of its items. -/
lemma toJson_list (items : List Value) : (list items).toJson = .array (items.map toJson) :=
  congrArg Json.Value.array (itemsToJson_eq items)

/-- An array is shown as an array of its items. -/
lemma toJson_array (items : List Value) : (array items).toJson = .array (items.map toJson) :=
  congrArg Json.Value.array (itemsToJson_eq items)

/-- A map is shown as an array of its entries. -/
lemma toJson_map (entries : List (Value × Value)) : (map entries).toJson =
    .array (entries.map fun entry => .array [entry.1.toJson, entry.2.toJson]) :=
  congrArg Json.Value.array (entriesToJson_eq entries)

/-- A struct is shown as an object of its fields. -/
lemma toJson_struct (fields : List (String × Value)) :
    (struct fields).toJson = .object (Json.Members.ofList (memberPairs fields)) :=
  congrArg Json.Value.object (fieldsToJson_eq fields)

/-- A union is shown as the value in it. -/
lemma toJson_union (inner : Value) : (union inner).toJson = inner.toJson := rfl

/-- A scalar is its own only leaf. -/
lemma leaves_scalar (h : v.IsScalar) : v.leaves = [v] := by
  cases v with
  | list | array | struct | map | union => exact h.elim
  | _ => rfl

/-- A scalar becomes a scalar. -/
lemma leaves_toJson_scalar (h : v.IsScalar) : v.toJson.leaves = [v.toJson] := by
  have hdouble (x : Option Number.Double) : (doubleToJson x).leaves = [doubleToJson x] := by
    cases x with
    | none => rfl
    | some x => rfl
  cases v with
  | list | array | struct | map | union => exact h.elim
  | float x => exact hdouble _
  | double x => exact hdouble _
  | _ => rfl

/-- The scalars are those of the children. -/
lemma leaves_eq_children (h : ¬ v.IsScalar) : v.leaves = v.children.flatMap leaves := by
  cases v with
  | list items => exact itemLeaves_eq items
  | array items => exact itemLeaves_eq items
  | struct fields => exact (fieldLeaves_eq fields).trans (List.flatMap_map ..).symm
  | map entries =>
    have hpair (entry : Value × Value) :
        [entry.1, entry.2].flatMap leaves = entry.1.leaves ++ entry.2.leaves := by
      rw [List.flatMap_cons, List.flatMap_singleton]
    rw [leaves, children, entryLeaves_eq, List.flatMap_assoc]
    exact List.flatMap_congr fun entry _ => (hpair entry).symm
  | union inner => exact (List.flatMap_singleton ..).symm
  | _ => exact absurd trivial h

/-- Without fields to be sorted, the scalars of the result are those of the converted children. -/
lemma leaves_toJson_children (h : ¬ v.IsScalar) (hstruct : ¬ v.IsStruct) :
    v.toJson.leaves = v.children.flatMap (·.toJson.leaves) := by
  have hitems (items : List Value) :
      (Json.Value.array (items.map toJson)).leaves = items.flatMap (·.toJson.leaves) :=
    (Json.itemLeaves_eq _).trans (List.flatMap_map ..)
  cases v with
  | list items => exact (congrArg Json.Value.leaves (toJson_list items)).trans (hitems items)
  | array items => exact (congrArg Json.Value.leaves (toJson_array items)).trans (hitems items)
  | struct fields => exact absurd trivial hstruct
  | map entries =>
    have hpair (entry : Value × Value) :
        (Json.Value.array [entry.1.toJson, entry.2.toJson]).leaves =
          [entry.1, entry.2].flatMap (·.toJson.leaves) := hitems [entry.1, entry.2]
    rw [toJson_map, Json.Value.leaves, Json.itemLeaves_eq, List.flatMap_map, children,
      List.flatMap_assoc]
    exact List.flatMap_congr fun entry _ => hpair entry
  | union inner => exact (List.flatMap_singleton ..).symm
  | _ => exact absurd trivial h

/-- Fields with different names are only put in another order. -/
lemma leaves_toJson_children_perm (h : ¬ v.IsScalar) (hnames : v.fieldNames.Nodup) :
    v.toJson.leaves.Perm (v.children.flatMap (·.toJson.leaves)) := by
  cases v with
  | struct fields =>
    have hpairs : ((memberPairs fields).map Prod.fst).Nodup := (keys_memberPairs fields) ▸ hnames
    have hleaves : (memberPairs fields).flatMap (·.2.leaves) =
        (struct fields).children.flatMap (·.toJson.leaves) := by
      rw [memberPairs, List.flatMap_map, children, List.flatMap_map]
    rw [toJson_struct, Json.Value.leaves, Json.memberLeaves_eq, ← hleaves]
    exact (Json.Members.perm_ofList hpairs).flatMap_right _
  | _ => exact .of_eq (leaves_toJson_children h id)

/-! ## All levels -/

/-- Without repeated names the leaves of what is shown are those of the value, in some order. -/
lemma DistinctNames.leaves_perm (h : v.DistinctNames) :
    v.toJson.leaves.Perm (v.leaves.map toJson) := by
  -- by induction on the condition, which has a hypothesis for each child whatever holds the children
  induction h with
  | @intro v hnames _ ih =>
    by_cases hscalar : v.IsScalar
    · rw [leaves_scalar hscalar, leaves_toJson_scalar hscalar, List.map_singleton]
    · rw [leaves_eq_children hscalar, List.map_flatMap]
      exact (leaves_toJson_children_perm hscalar hnames).trans (List.Perm.flatMap_left _ ih)

/-- Without structs the order of the leaves is kept as well. -/
lemma StructFree.leaves_eq (h : v.StructFree) : v.toJson.leaves = v.leaves.map toJson := by
  induction h with
  | @intro v hstruct _ ih =>
    by_cases hscalar : v.IsScalar
    · rw [leaves_scalar hscalar, leaves_toJson_scalar hscalar, List.map_singleton]
    · rw [leaves_eq_children hscalar, List.map_flatMap, leaves_toJson_children hscalar hstruct]
      exact List.flatMap_congr ih

/--
The scalars of a converted value are the converted scalars of the value, each as often as it occurs, if
no structure in it repeats a name, and in the same order if there is no structure in it.  A list stays a
list of as many items in the same order, a map becomes as many pairs of key and value, and a union is
what it holds.  A structure becomes an object with exactly its names, sorted, and under each name there
is the last of the fields with that name.
-/
theorem leaves_toJson :
    (∀ v : Value, v.DistinctNames → v.toJson.leaves.Perm (v.leaves.map toJson)) ∧
    (∀ v : Value, v.StructFree → v.toJson.leaves = v.leaves.map toJson) ∧
    (∀ items, (list items).toJson = .array (items.map toJson)) ∧
    (∀ items, (array items).toJson = .array (items.map toJson)) ∧
    (∀ entries, (map entries).toJson =
      .array (entries.map fun entry => .array [entry.1.toJson, entry.2.toJson])) ∧
    (∀ inner, (union inner).toJson = inner.toJson) ∧
    ∀ fields, ∃ members, (struct fields).toJson = .object members ∧
      (members.map Prod.fst).Pairwise (· < ·) ∧
      (∀ name, name ∈ members.map Prod.fst ↔ name ∈ fields.map Prod.fst) ∧
      ∀ name, members.lookup name = (fields.reverse.lookup name).map toJson := by
  refine ⟨fun _ => DistinctNames.leaves_perm, fun _ => StructFree.leaves_eq, toJson_list, toJson_array,
    toJson_map, toJson_union, fun fields => ⟨_, toJson_struct fields, Json.Members.sorted_ofList _,
      fun name => ?_, fun name => ?_⟩⟩
  · rw [Json.Members.mem_keys_ofList, keys_memberPairs]
  · rw [Json.Members.lookup_ofList, memberPairs, ← List.map_reverse]
    exact Entries.lookup_map toJson

/-- A structure of a list with a union, and a map. -/
def medals : Value :=
  .struct [("years", .list [.smallInt 2008, .union (.text "2012")]),
    ("gold", .map [(.text "USA", .smallInt 36)])]

/-- The map comes first in the object, so the scalars change their order. -/
theorem leaves_toJson_medals :
    medals.DistinctNames ∧
    medals.leaves = [.smallInt 2008, .text "2012", .text "USA", .smallInt 36] ∧
    medals.toJson.leaves.Perm (medals.leaves.map toJson) ∧
    medals.toJson.leaves =
      [.string "USA", .number (.ofInt64 36), .number (.ofInt64 2008), .string "2012"] := by
  have hyears : (list [.smallInt 2008, .union (.text "2012")]).DistinctNames := by
    refine .intro .nil (List.forall_mem_cons.mpr
      ⟨distinctNames_scalar trivial, List.forall_mem_singleton.mpr ?_⟩)
    exact .intro .nil (List.forall_mem_singleton.mpr (distinctNames_scalar trivial))
  have hgold : (map [(.text "USA", .smallInt 36)]).DistinctNames :=
    .intro .nil (List.forall_mem_cons.mpr
      ⟨distinctNames_scalar trivial, List.forall_mem_singleton.mpr (distinctNames_scalar trivial)⟩)
  have hmedals : medals.DistinctNames :=
    .intro (by decide) (List.forall_mem_cons.mpr ⟨hyears, List.forall_mem_singleton.mpr hgold⟩)
  exact ⟨hmedals, rfl, leaves_toJson.1 medals hmedals, rfl⟩

end Value

end DuckDb

end GridRows
