/-!
# Parts between separators

Lists, such as the characters of a text, cut at every separator.
-/

namespace GridRows.Text

variable {α : Type} [DecidableEq α]

/-- The parts between the separators; there is always at least one. -/
def parts (separator : α) : List α → List (List α)
  | [] => [[]]
  | a :: rest =>
    let found := parts separator rest
    if a = separator then [] :: found
    else
      match found with
      | part :: more => (a :: part) :: more
      | [] => [[a]]

end GridRows.Text
