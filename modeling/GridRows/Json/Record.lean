import GridRows.Json.Reader

/-!
# Records

A record has named fields in a fixed order.  It is written as an object with those members, in any
order and with other members ignored, or as an array of the values in the order of the fields.
-/

namespace GridRows.Json

/-- The value of a required field. -/
def Mismatch.require {α : Type} (name : String) : Option α → Except Mismatch α
  | some value => .ok value
  | none => .error (.missingField name)

/-- A field of a record that is collected in a draft of type `σ`. -/
structure Field (σ : Type) where
  name : String
  /-- Whether the record must have the field. -/
  required : Bool
  /-- Whether the draft has the field already. -/
  isSet : σ → Bool
  /-- Reads the field's value, nested at most as deep as given, into the draft. -/
  read : Nat → σ → Reader σ

/-- How a record of type `α` is read: its fields fill a draft, from which the record is made. -/
structure Shape (σ α : Type) where
  /-- The name of the type in faults. -/
  title : String
  fields : List (Field σ)
  /-- The draft without any field. -/
  empty : σ
  /-- The record of a complete draft; fails at the first required field that is missing. -/
  finish : σ → Except Mismatch α

namespace Shape

variable {σ α : Type}

/-- Takes one member of a record in object form. -/
def member (s : Shape σ α) (depth : Nat) (key : String) (draft : σ) : Reader σ := do
  match s.fields.find? (·.name = key) with
  | none =>
    Reader.colon
    Reader.skipValue
    return draft
  | some field =>
    if field.isSet draft then throw (.mismatch (.duplicateField key))
    Reader.colon
    field.read depth draft

/-- Takes a record in object form after its opening brace. -/
def objectRest (s : Shape σ α) (depth : Nat) : Reader σ :=
  Reader.objectRest (s.member depth) s.empty

/--
Takes the values of the fields that are left in array form; `index` counts those before them.  A
field that need not be there may be missing at the end.
-/
def itemsRest (s : Shape σ α) (depth index : Nat) : List (Field σ) → σ → Reader σ
  | [], draft => return draft
  | field :: rest, draft => do
    if ← Reader.nextItem (index = 0) then
      itemsRest s depth (index + 1) rest (← field.read depth draft)
    else if field.required then
      let expected := s!"{s.title} with {s.fields.length} elements"
      throw (.mismatch (.tooShort index expected))
    else itemsRest s depth (index + 1) rest draft

/-- Takes a record in array form after its opening bracket. -/
def arrayRest (s : Shape σ α) (depth : Nat) : Reader σ := do
  let draft ← s.itemsRest depth 0 s.fields s.empty
  Reader.endArray
  return draft

/-- Takes a record that may be nested `depth` deep. -/
def read (s : Shape σ α) (depth : Nat) : Reader α := do
  let draft ← (do
    match ← Reader.peek with
    | '[' :: rest =>
      let depth ← Reader.descend depth
      set rest
      s.arrayRest depth
    | '\x7b' :: rest =>
      let depth ← Reader.descend depth
      set rest
      s.objectRest depth
    | _ => Reader.wrongType s.title : Reader σ)
  match s.finish draft with
  | .ok found => return found
  | .error cause => throw (.mismatch cause)

end Shape

end GridRows.Json
