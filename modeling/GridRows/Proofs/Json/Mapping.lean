import GridRows.Json.Record
import Mathlib.Data.List.Forall2
import Mathlib.Tactic.Lemma

/-!
# Reading into another draft

Two readers take the same characters if their drafts correspond, step by step: the drafts of the one
are the images of those of the other, from the empty draft on.  What is carried so from the members to
a whole record (`Shape.read_follows`) is an equation between readers, so of a text that is refused it
says that both refuse it for the same fault.
-/

namespace GridRows.Json

namespace Reader

variable {α β γ σ τ : Type}

section Steps

variable {f : α → β} {g : τ → σ}

/-- What follows a step that both readers take. -/
lemma bind_follows {m : Reader γ} {k : γ → Reader β} {k' : γ → Reader α}
    (h : ∀ c, k c = f <$> k' c) : m >>= k = f <$> (m >>= k') := by
  rw [map_bind]
  exact bind_congr h

/-- What follows a step whose drafts correspond. -/
lemma drafts_follow {m : Reader σ} {m' : Reader τ} {k : σ → Reader β} {k' : τ → Reader α}
    (hm : m = g <$> m') (h : ∀ d, k (g d) = f <$> k' d) : m >>= k = f <$> (m' >>= k') := by
  rw [hm, bind_map_left]
  exact bind_follows h

end Steps

/-- A refusal has no result, so mapping changes nothing. -/
lemma wrongType_follows (f : α → β) (expected : String) :
    wrongType expected = f <$> (wrongType expected : Reader α) := by
  refine bind_follows fun cs => ?_
  split
  case h_1 => rfl
  case h_2 => exact bind_follows fun _ => bind_follows fun _ => rfl
  case h_3 => exact bind_follows fun _ => bind_follows fun _ => rfl
  case h_4 => exact bind_follows fun _ => bind_follows fun _ => rfl
  case h_5 => exact bind_follows fun _ => bind_follows fun _ => rfl
  case h_6 => rfl
  case h_7 => rfl
  case h_8 =>
    split
    · exact bind_follows fun _ => rfl
    · rfl

/-- An absent value stays absent, and a present one is mapped. -/
lemma optional_follows (f : α → β) (m : Reader α) :
    optional (f <$> m) = Option.map f <$> optional m := by
  refine bind_follows fun cs => ?_
  split
  · exact bind_follows fun _ => bind_follows fun _ => rfl
  · rw [← comp_map, ← comp_map]
    rfl

section Members

variable {f : τ → σ} {member : String → σ → Reader σ} {member' : String → τ → Reader τ}

/-- If each member does the same to a state and to its image, so do all members. -/
lemma members_follow (step : ∀ key d, member key (f d) = f <$> member' key d) (fuel : Nat)
    (first : Bool) (d : τ) : members member fuel first (f d) = f <$> members member' fuel first d := by
  induction fuel generalizing first d with
  | zero => rfl
  | succ fuel ih =>
    refine bind_follows fun key? => ?_
    cases key? with
    | none => rfl
    | some key => exact drafts_follow (step key d) fun d' => ih false d'

/-- If each member does the same to a state and to its image, so does the rest of an object. -/
lemma objectRest_follows (step : ∀ key d, member key (f d) = f <$> member' key d) (d : τ) :
    objectRest member (f d) = f <$> objectRest member' d :=
  bind_follows fun _ => members_follow step _ true d

end Members

/-- Takes an object, given how the rest of a member is taken behind all members before it. -/
def mapWith (member : Nat → String → σ → Reader σ) (start : σ) (depth : Nat) : Reader σ := do
  match ← peek with
  | '\x7b' :: rest =>
    let depth ← descend depth
    set rest
    objectRest (member depth) start
  | _ => wrongType "a map"

/-- If each member does the same to a state and to its image, so does a map. -/
lemma mapWith_follows {f : τ → σ} {member : Nat → String → σ → Reader σ}
    {member' : Nat → String → τ → Reader τ}
    (step : ∀ depth key d, member depth key (f d) = f <$> member' depth key d) (start : τ)
    (depth : Nat) : mapWith member (f start) depth = f <$> mapWith member' start depth := by
  refine bind_follows fun cs => ?_
  split
  · exact bind_follows fun depth => bind_follows fun _ => objectRest_follows (step depth) start
  · exact wrongType_follows f "a map"

/-- Mapping a reader maps what it gives for a text. -/
lemma run_map (f : α → β) (m : Reader α) (text : String) :
    run (f <$> m) text = (run m text).map f := by
  unfold run
  rw [StateT.run_map]
  cases StateT.run m text.toList with
  | error fault => rfl
  | ok found =>
    change (if found.2.all isBlank then Except.ok (f found.1) else .error ReadError.malformed) =
      Except.map f (if found.2.all isBlank then .ok found.1 else .error .malformed)
    split
    · rfl
    · rfl

end Reader

variable {σ τ α β : Type}

/-- The field reads into the image of a draft what the other reads into the draft. -/
structure Field.Follows (f : τ → σ) (field : Field σ) (field' : Field τ) : Prop where
  name : field.name = field'.name
  required : field.required = field'.required
  isSet : ∀ d, field.isSet (f d) = field'.isSet d
  read : ∀ depth d, field.read depth (f d) = f <$> field'.read depth d

namespace Shape

open Reader

variable {s : Shape σ α} {s' : Shape τ β} {f : τ → σ} {g : β → α}

/-- Both records have a field of the name, or neither has. -/
lemma find?_follows {fields : List (Field σ)} {fields' : List (Field τ)}
    (h : List.Forall₂ (Field.Follows f) fields fields') (key : String) :
    Option.Rel (Field.Follows f) (fields.find? (·.name = key)) (fields'.find? (·.name = key)) := by
  induction h with
  | nil => exact .none
  | cons hfield _ ih =>
    rw [List.find?_cons, List.find?_cons, hfield.name]
    split
    · exact .some hfield
    · exact ih

/-- If the fields do the same to a draft and to its image, so does a member by its name. -/
lemma member_follows (h : List.Forall₂ (Field.Follows f) s.fields s'.fields) (depth : Nat)
    (key : String) (d : τ) : s.member depth key (f d) = f <$> s'.member depth key d := by
  have hfind := find?_follows h key
  unfold member
  generalize s.fields.find? (·.name = key) = field? at hfind ⊢
  generalize s'.fields.find? (·.name = key) = field?' at hfind ⊢
  cases hfind with
  | none => exact bind_follows fun _ => bind_follows fun _ => rfl
  | @some field field' hfield =>
    dsimp only
    rw [hfield.isSet, hfield.read]
    split
    · rfl
    · exact bind_follows fun _ => rfl

/--
If the fields do the same to a draft and to its image, so do the items of an array in their order.
-/
lemma itemsRest_follows (htitle : s.title = s'.title) (hlength : s.fields.length = s'.fields.length)
    {rest : List (Field σ)} {rest' : List (Field τ)}
    (h : List.Forall₂ (Field.Follows f) rest rest') (depth index : Nat) (d : τ) :
    s.itemsRest depth index rest (f d) = f <$> s'.itemsRest depth index rest' d := by
  induction h generalizing index d with
  | nil => rfl
  | cons hfield _ ih =>
    refine bind_follows fun more => ?_
    rw [hfield.required, htitle, hlength]
    split
    · exact drafts_follow (hfield.read depth d) fun d' => ih (index + 1) d'
    · split
      · rfl
      · exact ih (index + 1) d

/-- A record whose fields follow those of another reads what the other does, in either form. -/
lemma read_follows (htitle : s.title = s'.title)
    (hfields : List.Forall₂ (Field.Follows f) s.fields s'.fields) (hempty : s.empty = f s'.empty)
    (hfinish : ∀ d, s.finish (f d) = (s'.finish d).map g) (depth : Nat) :
    s.read depth = g <$> s'.read depth := by
  have harray (depth : Nat) : s.arrayRest depth = f <$> s'.arrayRest depth := by
    unfold arrayRest
    rw [hempty]
    exact drafts_follow (itemsRest_follows htitle hfields.length_eq hfields depth 0 s'.empty)
      fun d => bind_follows fun _ => rfl
  have hobject (depth : Nat) : s.objectRest depth = f <$> s'.objectRest depth := by
    unfold objectRest
    rw [hempty]
    exact objectRest_follows (member_follows hfields depth) s'.empty
  refine drafts_follow (g := f) (bind_follows fun cs => ?_) fun d => ?_
  · split
    · exact bind_follows fun depth => bind_follows fun _ => harray depth
    · exact bind_follows fun depth => bind_follows fun _ => hobject depth
    · rw [htitle]
      exact wrongType_follows f s'.title
  · rw [hfinish]
    cases s'.finish d with
    | ok found => rfl
    | error cause => rfl

end Shape

end GridRows.Json
