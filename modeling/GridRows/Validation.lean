/-!
# Rejected requests

Why a request is rejected before a statement is made from it.
-/

namespace GridRows

/-- Why a request is rejected. -/
inductive Invalid where
  | noTable
  | surplusKeys (keys levels : Nat)
  | emptyGroupField (id : String)
  | incompleteAggregate (field : String)
  | negativeWindow (startRow endRow : Int)
  | reversedWindow (startRow endRow : Int)
  | pageTooLarge (size limit : Nat)
  | notRegistered (source : String)
  /-- A reason that a data source gives in its own words. -/
  | stated (text : String)
  deriving DecidableEq

/-- The words for each reason. -/
def Invalid.message : Invalid → String
  | .noTable => "tableName must not be empty"
  | .surplusKeys keys levels =>
    s!"{keys} group keys supplied but only {levels} row group columns configured"
  | .emptyGroupField id => "row group column '" ++ id ++ "' has an empty field"
  | .incompleteAggregate field => "value column '" ++ field ++ "' needs both a field and an aggFunc"
  | .negativeWindow startRow endRow =>
    s!"row window must be non-negative (startRow={startRow}, endRow={endRow})"
  | .reversedWindow startRow endRow => s!"endRow {endRow} is before startRow {startRow}"
  | .pageTooLarge size limit => s!"page size {size} exceeds the maximum of {limit}"
  | .notRegistered source => "data source " ++ source ++ " not registered"
  | .stated text => text

end GridRows
