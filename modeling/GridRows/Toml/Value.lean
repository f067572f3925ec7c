import GridRows.Number.Decimal

/-!
# TOML values

The values of a document once its tables are put together.
-/

namespace GridRows.Toml

/-- A TOML value. -/
inductive Value where
  | string (s : String)
  | integer (n : Int)
  | float (x : Number.Extended Number.Format.double)
  | boolean (b : Bool)
  /-- A date, a time or both, as written. -/
  | datetime (text : String)
  | array (items : List Value)
  /-- The entries in the order of the document; each key occurs once. -/
  | table (entries : List (String × Value))

end GridRows.Toml
