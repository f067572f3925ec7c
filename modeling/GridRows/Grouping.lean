import GridRows.Request

/-!
# Grouping depth

How far the grouping hierarchy of a request is expanded.  The depth is found once, and every clause
of a statement follows it, so all of them agree on the level that is revealed.
-/

namespace GridRows

/-- The number of levels expanded, out of all levels of the hierarchy. -/
structure GroupingDepth where
  /-- The levels already expanded to a key. -/
  depth : Nat
  /-- All levels of the hierarchy. -/
  levels : Nat
  deriving DecidableEq

namespace GroupingDepth

/-- Whether a level is left to reveal. -/
def isGrouping (g : GroupingDepth) : Bool := g.depth < g.levels

/-- The group column whose values are revealed, while a level is left. -/
def next? (g : GroupingDepth) (columns : List GroupColumn) : Option GroupColumn :=
  if g.isGrouping then columns[g.depth]? else none

/-- The ids of the levels that may be sorted by: those expanded and the one revealed. -/
def sortableIds (g : GroupingDepth) (columns : List GroupColumn) : List String :=
  (columns.take (g.depth + 1)).map (·.id)

end GroupingDepth

/-- The grouping depth of a request. -/
def Request.grouping (r : Request) : GroupingDepth := ⟨r.groupKeys.length, r.groupColumns.length⟩

/-- Whether these group columns have a level that the keys do not expand. -/
def isGrouping (columns : List GroupColumn) (keys : List String) : Bool :=
  keys.length < columns.length

end GridRows
