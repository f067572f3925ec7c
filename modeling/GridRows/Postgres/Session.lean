import GridRows.Error
import GridRows.Postgres.Cell
import GridRows.Postgres.Login
import GridRows.Sources

/-!
# PostgreSQL sessions

A connection to a server: logging in, and running one statement after the other.  The first statement
logs in, later ones use the same login.  A statement is parsed, its parameters are bound, and its rows
are decoded; the first of these steps that fails is what the caller is told.
-/

namespace GridRows.Postgres

open Json (Value Members)

/-! ## Running statements -/

/-- The step at which a server rejects a statement. -/
inductive Rejection where
  | atParse
  | atExecute
  deriving DecidableEq

/-- What a server makes of one statement. -/
structure Handling where
  paramTypes : List WireType
  /-- The names and types of the columns. -/
  columns : List (String × WireType)
  /-- The cells of the rows, in the order of the columns. -/
  rows : List (List (Option (List UInt8)))
  rejection : Option Rejection

/-- Why a statement has no rows to show. -/
inductive QueryFault where
  /-- The server rejects the statement. -/
  | rejected
  /-- The statement cannot be sent, because it holds the character that ends texts on the wire. -/
  | unsendable
  | wrongCount (expected found : Nat)
  /-- The first parameter that does not fit the type the server expects. -/
  | unfitParameter (index : Nat)
  /-- A row of the answer does not have one cell for each column. -/
  | unreadable
  deriving DecidableEq

/-- The words for each fault. -/
def QueryFault.message : QueryFault → String
  | .rejected => "db error"
  | .unsendable => "error encoding message to server"
  | .wrongCount expected found => s!"expected {expected} parameters but got {found}"
  | .unfitParameter index => s!"error serializing parameter {index}"
  | .unreadable => "error parsing response from server"

/-- The rows of a statement; the columns are those of the first row. -/
structure ResultSet where
  columns : List String
  rows : List Row

/-- What became of one statement. -/
structure Report where
  /-- The text that the server accepted. -/
  parsed : Option String
  /-- The parameters that were sent. -/
  bound : Option (List (Option (List UInt8)))
  result : Except Error ResultSet

/-- The cells of a row by column name; of columns with the same name the last one counts. -/
def rowOf (columns : List (String × WireType)) (cells : List (Option (List UInt8))) : Row :=
  Members.ofList ((columns.zip cells).map fun p => (p.1.1, cell p.1.2 p.2))

/-- The rows that a server answers with, if each of them has one cell for each column. -/
def Handling.resultSet (h : Handling) : Except QueryFault ResultSet :=
  if h.rows.all (·.length == h.columns.length) then
    .ok ⟨if h.rows.isEmpty then [] else h.columns.map (·.1), h.rows.map (rowOf h.columns)⟩
  else .error .unreadable

/-- The error of a statement that has no rows to show. -/
def queryError (fault : QueryFault) : Error :=
  .execution (.stated ("execute query: " ++ fault.message))

/-- Runs a statement on a server that handles it as given. -/
def Handling.run (h : Handling) (sql : String) (params : List Value) : Report :=
  let parameters := params.map Parameter.ofJson
  let unfit? := (parameters.zip h.paramTypes).findIdx? fun p => !p.1.fits p.2
  if sql.toList.contains '\x00' then ⟨none, none, .error (queryError .unsendable)⟩
  else if h.rejection = some .atParse then ⟨none, none, .error (queryError .rejected)⟩
  else if parameters.length ≠ h.paramTypes.length then
    let fault := QueryFault.wrongCount h.paramTypes.length parameters.length
    ⟨some sql, none, .error (queryError fault)⟩
  else
    match unfit? with
    | some index => ⟨some sql, none, .error (queryError (.unfitParameter index))⟩
    | none =>
      let bound := parameters.zipWith Parameter.bytes? h.paramTypes
      if h.rejection = some .atExecute then ⟨some sql, some bound, .error (queryError .rejected)⟩
      else ⟨some sql, some bound, h.resultSet.mapError queryError⟩

/-! ## Sessions -/

/-- A connection that may have logged in. -/
structure Session where
  target : Target
  /-- The name that logs in where the target has none. -/
  ownName : String
  isConnected : Bool := false
  /-- The logins that the server has granted so far. -/
  logins : List Login := []

/-- Opens a connection, which does not log in before its first statement. -/
def Session.start (connection ownName : String) : Except Error Session :=
  match (Settings.ofText connection).target with
  | .ok target => .ok { target := target, ownName := ownName }
  | .error fault =>
    .error (.execution (.stated ("create postgres pool: Config: " ++ fault.message)))

/-- Logs in, unless that has been done. -/
def Session.connect (s : Session) (server : Server) : Option LoginFault × Session :=
  if s.isConnected then (none, s)
  else
    let outcome := server.login s.target s.ownName
    (outcome.fault,
      { s with isConnected := outcome.fault.isNone, logins := s.logins ++ outcome.granted })

/-- The error of a statement for which there is no connection. -/
def loginError (fault : LoginFault) : Error :=
  .execution (.stated
    ("get postgres connection: Error occurred while creating a new object: " ++ fault.message))

/-- Runs a statement on the server, which handles it as given. -/
def Session.run (s : Session) (server : Server) (h : Handling) (sql : String)
    (params : List Value) : Report × Session :=
  match s.connect server with
  | (none, s) => (h.run sql params, s)
  | (some fault, s) => (⟨none, none, .error (loginError fault)⟩, s)

end GridRows.Postgres
