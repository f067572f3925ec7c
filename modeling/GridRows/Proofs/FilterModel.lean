import GridRows.Proofs.Entries
import GridRows.Proofs.Json.Mapping
import GridRows.Request.Reader
import Mathlib.Data.List.Induction

/-!
# The order of a filter model

A filter model is made of the members of an object, one after the other.  Its columns are those of the
members in the order in which they first occur (`FilterModel.keys_ofMembers`), and the filter of each
is that of its last member (`FilterModel.lookup_ofMembers`).

What is read can be told apart from what is made of it: a request is read as one whose filter model
has all members of the text, and these are merged afterwards (`Request.read_eq_merge`).
-/

namespace GridRows

open Json (Reader ReadError Field Shape)

namespace FilterModel

/-! ## One member -/

section Insert

variable {column : String} {f : Filter} {model : List (String × Filter)}

/-- Inserting a filter adds its column at the end, unless the column is there. -/
lemma keys_insert : (insert column f model).map Prod.fst =
    if column ∈ model.map Prod.fst then model.map Prod.fst
    else model.map Prod.fst ++ [column] := by
  induction model with
  | nil => rfl
  | cons entry model ih =>
    obtain ⟨c, g⟩ := entry
    rw [insert]
    by_cases hc : c = column
    · rw [if_pos hc, if_pos (hc ▸ List.mem_cons_self)]
      rfl
    · have hmem : column ∈ ((c, g) :: model).map Prod.fst ↔ column ∈ model.map Prod.fst := by
        rw [List.map_cons, List.mem_cons, or_iff_right (Ne.symm hc)]
      rw [if_neg hc, List.map_cons, ih, if_congr hmem rfl rfl]
      split
      · rfl
      · rfl

/-- A filter of a new column comes last. -/
lemma insert_of_notMem (h : column ∉ model.map Prod.fst) :
    insert column f model = model ++ [(column, f)] := by
  induction model with
  | nil => rfl
  | cons entry model ih =>
    rw [insert, if_neg (List.ne_of_not_mem_cons h).symm, ih (List.not_mem_of_not_mem_cons h)]
    rfl

/-- After an insertion the columns are the new one and those before. -/
lemma mem_keys_insert {key : String} (h : key ∈ (insert column f model).map Prod.fst) :
    key = column ∨ key ∈ model.map Prod.fst := by
  rw [keys_insert] at h
  split at h
  · exact .inr h
  · rcases List.mem_append.mp h with h | h
    · exact .inr h
    · exact .inl (List.mem_singleton.mp h)

/-- After an insertion its column has the new filter, and every other column what it had. -/
lemma lookup_insert (key : String) :
    (insert column f model).lookup key = if key = column then some f else model.lookup key := by
  induction model with
  | nil => exact Entries.lookup_cons column f
  | cons entry model ih =>
    obtain ⟨c, g⟩ := entry
    rw [insert]
    split
    · rename_i hc
      subst hc
      exact Entries.lookup_replaced c f g
    · rename_i hc
      exact Entries.lookup_behind g hc ih

end Insert

/-! ## All members -/

/-- The filter model of a list of members. -/
def ofMembers (members : List (String × Filter)) : List (String × Filter) :=
  members.foldl (fun model member => insert member.1 member.2 model) []

section Members

variable {members : List (String × Filter)}

/-- A member more is an insertion more. -/
lemma ofMembers_append (column : String) (f : Filter) :
    ofMembers (members ++ [(column, f)]) = insert column f (ofMembers members) := by
  rw [ofMembers, List.foldl_append]
  rfl

/-- The columns stay in the order in which they first occur. -/
lemma keys_ofMembers (members : List (String × Filter)) :
    (ofMembers members).map Prod.fst = (members.map Prod.fst).eraseDups := by
  -- the induction is from the right, since a member meets the columns before it
  induction members using List.reverseRecOn with
  | nil => rfl
  | append_singleton members member ih =>
    rw [ofMembers_append, keys_insert, ih, List.map_append, List.eraseDups_append,
      List.map_singleton]
    by_cases h : member.1 ∈ members.map Prod.fst
    · rw [if_pos (List.mem_eraseDups.mpr h)]
      have hnone : [member.1].removeAll (members.map Prod.fst) = [] := by
        simpa [List.removeAll] using h
      rw [hnone, List.eraseDups_nil, List.append_nil]
    · rw [if_neg (fun hmem => h (List.mem_eraseDups.mp hmem))]
      have hone : [member.1].removeAll (members.map Prod.fst) = [member.1] := by
        simpa [List.removeAll] using h
      rw [hone]
      rfl

/-- The last member of a column has its filter. -/
lemma lookup_ofMembers (members : List (String × Filter)) (key : String) :
    (ofMembers members).lookup key = members.reverse.lookup key :=
  Entries.lookup_foldl_nil (fun _ _ _ => lookup_insert key) members

end Members

/-! ## Reading all members -/

/-- How the rest of a member is taken, given its column and what has been read before it. -/
abbrev MemberReader : Type :=
  Nat → String → List (String × Filter) → Reader (List (String × Filter))

/-- Takes a filter model, given how a member is taken. -/
def readWith (member : MemberReader) (depth : Nat) : Reader (List (String × Filter)) := do
  match ← Reader.peek with
  | '\x7b' :: rest =>
    let depth ← Reader.descend depth
    set rest
    Reader.objectRest (member depth) []
  | _ => Reader.wrongType "a map"

/-- Takes the rest of a member of a filter model, behind all members before it. -/
def memberListed : MemberReader := fun depth column found => do
  Reader.colon
  return found ++ [(column, ← Filter.shape.read depth)]

/-- Reading a member into the map is reading it into the list, with the list merged. -/
lemma member_follows (depth : Nat) (column : String) (found : List (String × Filter)) :
    member depth column (ofMembers found) = ofMembers <$> memberListed depth column found := by
  refine Reader.bind_follows fun _ => Reader.bind_follows fun f => ?_
  rw [map_pure, ofMembers_append]

/-- A filter model is read as the members that the text has for it. -/
lemma readWith_follows (depth : Nat) :
    readWith member depth = ofMembers <$> readWith memberListed depth :=
  -- by definition `readWith` starts `Reader.mapWith` without members
  Reader.mapWith_follows member_follows [] depth

end FilterModel

/-! ## Requests -/

namespace Request

/-- The wire form of a request, given how a member of its filter model is taken. -/
def shapeWith (member : FilterModel.MemberReader) : Shape Draft Request :=
  { shape with
    fields := shape.fields.set 4
      ⟨"filterModel", false, (·.filterModel.isSome),
        fun depth d => return { d with
          filterModel := some (← Reader.optional (FilterModel.readWith member depth)) }⟩ }

/-- The shape of a request is the one whose filters are read into the map. -/
lemma shapeWith_member : shapeWith FilterModel.member = shape := rfl

/-- Reads a text as a request whose filter model has all members of the text, in their order. -/
def readListed (text : String) : Except ReadError Request :=
  Reader.run ((shapeWith FilterModel.memberListed).read Json.maxDepth) text

/-- The request whose filter model is made of the members that the given one lists. -/
def merge (r : Request) : Request :=
  { r with filterModel := r.filterModel.map FilterModel.ofMembers }

/-- The same of what has been read of a request. -/
def Draft.merge (d : Draft) : Draft :=
  { d with filterModel := d.filterModel.map (·.map FilterModel.ofMembers) }

/-- Every field of a request does the same to a draft and to the merged draft. -/
lemma fields_follow : List.Forall₂ (Field.Follows Draft.merge)
    (shapeWith FilterModel.member).fields (shapeWith FilterModel.memberListed).fields := by
  have hmodel (depth : Nat) (d : Draft) :
      (do
        let model? ← Reader.optional (FilterModel.readWith FilterModel.member depth)
        return { d.merge with filterModel := some model? } : Reader Draft) =
      Draft.merge <$> (do
        let model? ← Reader.optional (FilterModel.readWith FilterModel.memberListed depth)
        return { d with filterModel := some model? }) := by
    rw [FilterModel.readWith_follows]
    exact Reader.drafts_follow (Reader.optional_follows _ _) fun _ => rfl
  refine .cons ?_ (.cons ?_ (.cons ?_ (.cons ?_ (.cons ?model (.cons ?_ (.cons ?_ (.cons ?_ .nil)))))))
  case model => exact ⟨rfl, rfl, fun _ => Option.isSome_map, hmodel⟩
  all_goals exact ⟨rfl, rfl, fun _ => rfl, fun _ _ => Reader.bind_follows fun _ => rfl⟩

/-- A merged draft is finished as the draft is, and the request merged. -/
lemma finish_merge (d : Draft) : shape.finish d.merge = (shape.finish d).map merge := by
  have hmodel : d.merge.filterModel.join = d.filterModel.join.map FilterModel.ofMembers :=
    Option.join_map_eq_map_join
  unfold shape
  dsimp only
  rw [hmodel]
  unfold Draft.merge
  dsimp only
  cases d.table with
  | none => rfl
  | some table =>
    cases d.startRow with
    | none => rfl
    | some startRow =>
      cases d.endRow with
      | none => rfl
      | some endRow => rfl

/-- A request is read as one that lists all members of its filter model, which are then merged. -/
lemma read_eq_merge (text : String) : Request.read text = (readListed text).map merge := by
  have hread : shape.read Json.maxDepth =
      merge <$> (shapeWith FilterModel.memberListed).read Json.maxDepth := by
    rw [← shapeWith_member]
    refine Shape.read_follows ?title fields_follow ?empty finish_merge Json.maxDepth
    case title => rfl
    case empty => rfl
  rw [Request.read, hread, Reader.run_map, readListed]

end Request

end GridRows
