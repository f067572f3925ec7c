import GridRows.Number.Decimal
import GridRows.Text.Hex
import GridRows.Text.Parts

/-!
# Network addresses

The spelling of a network address: four decimal numbers between points, or eight groups of
hexadecimal digits between colons, of which one run of zeros may be left out.
-/

namespace GridRows.Postgres

open Text (parts)

/-- Whether the text is one of the four numbers of an address: below 256, without leading zeros. -/
def isOctet (cs : List Char) : Bool :=
  1 ≤ cs.length && cs.length ≤ 3 && cs.all Char.isDigit && Number.natOfDigits cs < 256 &&
    (cs.length == 1 || cs.head? ≠ some '0')

/-- Whether the text is an address of four numbers. -/
def isQuad (cs : List Char) : Bool :=
  let octets := parts '.' cs
  octets.length == 4 && octets.all isOctet

/-- Whether the text is one of the eight groups of an address. -/
def isGroup (cs : List Char) : Bool :=
  1 ≤ cs.length && cs.length ≤ 4 && cs.all fun c => (Text.hexValue? c).isSome

/-- The parts of a text between colons; an empty text has none. -/
def groups (cs : List Char) : List (List Char) := if cs.isEmpty then [] else parts ':' cs

/-- How many groups the parts stand for: four numbers may take the place of the last two. -/
def groupCount? : List (List Char) → Option Nat
  | [] => some 0
  | part :: rest =>
    if isGroup part then (groupCount? rest).map (· + 1)
    else if rest.isEmpty && isQuad part then some 2
    else none

/-- What stands before and after the first two colons in a row. -/
def aroundGap? : List Char → Option (List Char × List Char)
  | ':' :: ':' :: rest => some ([], rest)
  | c :: rest => (aroundGap? rest).map fun p => (c :: p.1, p.2)
  | [] => none

/-- Whether the text is an address of eight groups; two colons in a row stand for the groups that
are missing, of which there is at least one. -/
def isGrouped (cs : List Char) : Bool :=
  match aroundGap? cs with
  | some (before, after) =>
    (groups before).all isGroup &&
      (groupCount? (groups after)).any fun count => (groups before).length + count ≤ 7
  | none => groupCount? (groups cs) == some 8

/-- Whether the text is a network address. -/
def isAddress (s : String) : Bool := isQuad s.toList || isGrouped s.toList

end GridRows.Postgres
