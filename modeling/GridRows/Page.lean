import GridRows.Json.Value
import GridRows.Validation

/-!
# Pages

A page is the window of rows from `startRow` up to and without `endRow`.  A statement fetches one row
more than the page holds, and that row, which is never handed out, tells whether another page exists.
-/

namespace GridRows

/-- A window of rows. -/
structure PageWindow where
  startRow : Nat
  /-- The first row after the window. -/
  endRow : Nat
  ordered : startRow ≤ endRow
  deriving DecidableEq

namespace PageWindow

/-- The window between two bounds, which must not be negative or reversed. -/
def ofBounds (startRow endRow : Int) : Except Invalid PageWindow :=
  if negative : startRow < 0 ∨ endRow < 0 then .error (.negativeWindow startRow endRow)
  else if reversed : endRow < startRow then .error (.reversedWindow startRow endRow)
  else .ok ⟨startRow.toNat, endRow.toNat, by omega⟩

/-- The rows that the page holds. -/
def pageSize (w : PageWindow) : Nat := w.endRow - w.startRow

/-- The rows to fetch: the page and one more. -/
def limit (w : PageWindow) : Nat := w.pageSize + 1

/-- The rows to pass over. -/
def offset (w : PageWindow) : Nat := w.startRow

/-- The window as a JSON value; bounds beyond a word, which no request has, are left out. -/
def toJson (w : PageWindow) : Json.Value :=
  let bound (n : Nat) : Json.Value := ((Json.Number.ofInt? n).map .number).getD .null
  .object [("start_row", bound w.startRow), ("end_row", bound w.endRow)]

end PageWindow

/-- The rows of one page. -/
structure Page (α : Type) where
  rows : List α
  /-- Whether more rows were fetched than the page holds. -/
  hasMore : Bool
  deriving DecidableEq

/-- The number of rows handed out. -/
def Page.rowCount {α : Type} (p : Page α) : Nat := p.rows.length

/-- The page made of fetched rows: those beyond its size are dropped. -/
def PageWindow.trim {α : Type} (w : PageWindow) (rows : List α) : Page α :=
  ⟨rows.take w.pageSize, w.pageSize < rows.length⟩

end GridRows
