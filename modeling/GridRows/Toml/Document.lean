import GridRows.Toml.Scanner
import GridRows.Toml.Value

/-!
# TOML documents

A document is a list of sections, each a header and its entries.  The sections are put together into
one tree of tables.  A table may be opened by a header once, and only if so far it was no more than
named on the way to another header; dotted keys may add to tables that dotted keys made, and to no
others; every key is set once.
-/

namespace GridRows.Toml

/-- How a table came about. -/
inductive Origin where
  /-- Opened by its own header; so are the root, the tables of an array and inline tables. -/
  | header
  /-- Named on the way to another header. -/
  | implied
  /-- Made by a dotted key. -/
  | dotted
  deriving DecidableEq

/-- A tree of tables that is being put together. -/
inductive Node where
  | leaf (value : Value)
  | table (origin : Origin) (entries : List (String × Node))
  /-- An array of tables, to whose last table later headers add. -/
  | tables (items : List (List (String × Node)))

/-- The entries of a table that is being put together. -/
abbrev Entries := List (String × Node)

namespace Entries

/-- The node at a key. -/
def get? (key : String) (entries : Entries) : Option Node := entries.lookup key

/-- Sets the node at a key: a new key goes last, a known one keeps its place. -/
def set (key : String) (node : Node) : Entries → Entries
  | [] => [(key, node)]
  | (k, n) :: rest => if k = key then (k, node) :: rest else (k, n) :: set key node rest

/--
Changes the table at the end of a path, making the tables on the way that are missing.  A path in a
dotted key does not pass tables that have a header.
-/
def update (dotted : Bool) (change : Origin → Entries → Option Entries) (origin : Origin) :
    List String → Entries → Option Entries
  | [], entries => change origin entries
  | key :: path, entries =>
    match get? key entries with
    | none => do
      let made := if dotted then Origin.dotted else .implied
      let inner ← update dotted change made path []
      return set key (.table made inner) entries
    | some (.leaf _) => none
    | some (.tables items) => do
      let inner ← update dotted change .header path (← items.getLast?)
      return set key (.tables (items.dropLast ++ [inner])) entries
    | some (.table found inner) => do
      if dotted ∧ found = .header then none
      let inner ← update dotted change found path inner
      return set key (.table found inner) entries

/-- Adds an entry whose key has the given parts. -/
def insert (key : List String) (value : Value) (entries : Entries) : Option Entries := do
  let name ← key.getLast?
  let path := key.dropLast
  let add (origin : Origin) (found : Entries) : Option Entries :=
    if (origin = .dotted ↔ path = []) ∨ (get? name found).isSome then none
    else some (found ++ [(name, .leaf value)])
  update true add .header path entries

/-- Adds entries one after the other. -/
def insertAll (entries : Entries) (pairs : List (List String × Value)) : Option Entries :=
  pairs.foldlM (fun found pair => insert pair.1 pair.2 found) entries

end Entries

mutual

/-- The value of a node. -/
def Node.value : Node → Value
  | .leaf value => value
  | .table _ entries => .table (entryValues entries)
  | .tables items => .array (tableValues items)

/-- The entries of a table with their values. -/
def entryValues : List (String × Node) → List (String × Value)
  | [] => []
  | (key, node) :: rest => (key, node.value) :: entryValues rest

/-- The values of the tables of an array. -/
def tableValues : List (List (String × Node)) → List Value
  | [] => []
  | entries :: rest => .table (entryValues entries) :: tableValues rest

end

namespace Scanner

/-! ## Values -/

/-- Takes the items of an array after its opening bracket, and its end, at most `fuel` items. -/
def items (item : Scanner Value) : Nat → Scanner (List Value)
  | 0 => failure
  | fuel + 1 => do
    gap
    match ← get with
    | ']' :: rest =>
      set rest
      return []
    | _ =>
      let value ← item
      gap
      match ← get with
      | ',' :: rest =>
        set rest
        return value :: (← items item fuel)
      | _ =>
        char ']'
        return [value]

/-- Takes one entry: its key, an equals sign and its value. -/
def entry (item : Scanner Value) : Scanner (List String × Value) := do
  let path ← key
  char '='
  blanks
  return (path, ← item)

/-- Takes the entries of an inline table and its end, at most `fuel` entries. -/
def inlineEntries (item : Scanner Value) : Nat → Scanner (List (List String × Value))
  | 0 => failure
  | fuel + 1 => do
    let found ← entry item
    blanks
    match ← get with
    | ',' :: rest =>
      set rest
      return found :: (← inlineEntries item fuel)
    | _ =>
      char '\x7d'
      return [found]

/-- Takes an inline table after its opening brace. -/
def inlineTable (item : Scanner Value) : Scanner Value := do
  blanks
  match ← get with
  | '\x7d' :: rest =>
    set rest
    return .table []
  | cs =>
    let pairs ← inlineEntries item cs.length
    match Entries.insertAll [] pairs with
    | some entries => return .table (entryValues entries)
    | none => failure

/-- Takes a number, a date or a time. -/
def numeric : Scanner Value :=
  (.datetime <$> datetime) <|> (.float <$> float) <|> (.float <$> namedFloat) <|>
    (.integer <$> integer)

/-- Takes a value, given how the rest of an array and of an inline table is taken. -/
def valueWith (array table : Scanner Value) : Scanner Value := do
  match ← get with
  | '"' :: _ => .string <$> string
  | '\x27' :: _ => .string <$> string
  | '[' :: rest =>
    set rest
    array
  | '\x7b' :: rest =>
    set rest
    table
  | 't' :: rest =>
    set rest
    word ['r', 'u', 'e']
    return .boolean true
  | 'f' :: rest =>
    set rest
    word ['a', 'l', 's', 'e']
    return .boolean false
  | _ => numeric

/-- Takes a value that may be nested `depth` deep. -/
def value : Nat → Scanner Value
  | 0 => valueWith failure failure
  | depth + 1 =>
    valueWith (do return .array (← items (value depth) ((← get).length + 1)))
      (inlineTable (value depth))

/-! ## Lines -/

/-- A line of a document. -/
inductive Line where
  | entry (key : List String) (value : Value)
  | table (path : List String)
  | arrayTable (path : List String)

/-- Takes a line that is not blank, without its end. -/
def line : Scanner Line := do
  match ← get with
  | '[' :: '[' :: rest =>
    set rest
    let path ← key
    word [']', ']']
    return .arrayTable path
  | '[' :: rest =>
    set rest
    let path ← key
    char ']'
    return .table path
  | _ =>
    let (path, value) ← entry (value maxDepth)
    return .entry path value

/-- Takes the lines of a document, at most `fuel` of them. -/
def lines : Nat → Scanner (List Line)
  | 0 => failure
  | fuel + 1 => do
    gap
    if (← get).isEmpty then return []
    let first ← line
    lineEnd
    return first :: (← lines fuel)

end Scanner

/-- A header and the entries below it, the last one first. -/
structure Block where
  path : List String
  isArray : Bool
  entries : List (List String × Value)

/-- The document so far: its tree, and the section that lines are being added to. -/
structure Assembly where
  root : Entries
  current : Block

namespace Assembly

/-- The start of a document: no tree, and the entries before the first header. -/
def start : Assembly := ⟨[], ⟨[], false, []⟩⟩

/-- Puts the current section into the tree. -/
def close (a : Assembly) : Option Entries := do
  let pairs := a.current.entries.reverse
  match a.current.path.getLast? with
  | none => Entries.insertAll a.root pairs
  | some name =>
    let add (_ : Origin) (parent : Entries) : Option Entries := do
      if a.current.isArray then
        let table ← Entries.insertAll [] pairs
        match Entries.get? name parent with
        | none => return Entries.set name (.tables [table]) parent
        | some (.tables items) => return Entries.set name (.tables (items ++ [table])) parent
        | _ => none
      else
        match Entries.get? name parent with
        | none => return Entries.set name (.table .header (← Entries.insertAll [] pairs)) parent
        | some (.table .implied found) =>
          return Entries.set name (.table .header (← Entries.insertAll found pairs)) parent
        | _ => none
    Entries.update false add .header a.current.path.dropLast a.root

/-- Adds a line. -/
def add (a : Assembly) : Scanner.Line → Option Assembly
  | .entry key value =>
    some { a with current := { a.current with entries := (key, value) :: a.current.entries } }
  | .table path => return ⟨← a.close, ⟨path, false, []⟩⟩
  | .arrayTable path => return ⟨← a.close, ⟨path, true, []⟩⟩

end Assembly

/-- The table that the lines of a document describe. -/
def assemble (lines : List Scanner.Line) : Option Value := do
  let assembly ← lines.foldlM Assembly.add Assembly.start
  return .table (entryValues (← assembly.close))

/-- Reads a document, which may begin with a byte order mark. -/
def read (text : String) : Option Value := do
  let cs :=
    match text.toList with
    | '\ufeff' :: rest => rest
    | cs => cs
  let (lines, _) ← (Scanner.lines (cs.length + 1)).run cs
  assemble lines

end GridRows.Toml
