import GridRows.Json.Number

/-!
# JSON values

Values, and the members of the objects that are read: sorted by key, one member for each key.
-/

namespace GridRows.Json

/-- A JSON value. -/
inductive Value where
  | null
  | boolean (b : Bool)
  | number (n : Number)
  | string (s : String)
  | array (items : List Value)
  /-- The members in the order in which they are written. -/
  | object (members : List (String × Value))

/-- The members of an object; `Members.insert` keeps them sorted by key. -/
abbrev Members := List (String × Value)

namespace Members

/-- Adds a member in its place; a member with the same key is replaced. -/
def insert (key : String) (value : Value) : Members → Members
  | [] => [(key, value)]
  | (k, v) :: rest =>
    if key < k then (key, value) :: (k, v) :: rest
    else if key = k then (key, value) :: rest
    else (k, v) :: insert key value rest

/-- The members of a list of pairs; of pairs with the same key the last one counts. -/
def ofList (pairs : List (String × Value)) : Members :=
  pairs.foldl (fun members pair => members.insert pair.1 pair.2) []

end Members

end GridRows.Json
