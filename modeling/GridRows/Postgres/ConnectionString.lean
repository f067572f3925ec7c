import GridRows.Number.Decimal
import GridRows.Postgres.Address
import GridRows.Text.Blank
import GridRows.Text.Hex
import GridRows.Text.Parts
import GridRows.Text.Utf8

/-!
# PostgreSQL connection strings

A connection string is a URL or a list of `key=value` words.  Either gives a target: where the server
is, who logs in, and which database is opened.  A target always has a database.
-/

namespace GridRows.Postgres

open Number (natOfDigits)
open Text (parts utf8 ofUtf8?)

/-- The number of a port: decimal digits, after an optional plus sign, up to the largest port. -/
def portOf? (s : String) : Option Nat :=
  let digits :=
    match s.toList with
    | '+' :: rest => rest
    | cs => cs
  if digits ≠ [] ∧ digits.all Char.isDigit ∧ natOfDigits digits < 0x10000 then
    some (natOfDigits digits)
  else none

/-! ## Settings -/

/-- What a connection string says, before it is checked. -/
structure Settings where
  url : Option String := none
  host : Option String := none
  port : Option Nat := none
  user : Option String := none
  password : Option String := none
  database : Option String := none
  deriving DecidableEq

namespace Settings

/-- Takes in one pair; the last pair of a key counts, and unknown keys say nothing. -/
def set (s : Settings) (key value : String) : Settings :=
  if key = "host" then { s with host := some value }
  else if key = "port" then { s with port := portOf? value }
  else if key = "user" then { s with user := some value }
  else if key = "password" then { s with password := some value }
  else if key = "dbname" then { s with database := some value }
  else s

/-- The key before the first equals sign of a word and the value after it. -/
def pair? (word : List Char) : Option (String × String) :=
  match word.dropWhile (· ≠ '=') with
  | _ :: value => some (String.ofList (word.takeWhile (· ≠ '=')), String.ofList value)
  | [] => none

/-- The settings of a list of `key=value` words; other words say nothing. -/
def ofWords (text : String) : Settings :=
  ((Text.words text.toList).filterMap pair?).foldl (fun s pair => s.set pair.1 pair.2) {}

/-- What the URL of a server begins with. -/
def schemes : List String := ["postgres://", "postgresql://"]

/-- The text after the scheme of a URL. -/
def afterScheme? (text : String) : Option (List Char) :=
  schemes.findSome? fun scheme =>
    if scheme.toList.isPrefixOf text.toList then some (text.toList.drop scheme.length) else none

/-- The settings of a connection string. -/
def ofText (text : String) : Settings :=
  if (afterScheme? text).isSome then { url := some text } else ofWords text

end Settings

/-! ## Targets -/

/-- Where a server is sought. -/
inductive Host where
  /-- The directory of its socket; the path need not be UTF-8. -/
  | directory (path : List UInt8)
  | name (name : String)
  deriving DecidableEq

namespace Host

/-- The host of bytes: a path, or the text of a name. -/
def ofBytes? (bytes : List UInt8) : Option Host :=
  if bytes.head? = some 0x2F then some (directory bytes) else name <$> ofUtf8? bytes

/-- The host of a text. -/
def ofText (s : String) : Host := (ofBytes? (utf8 s)).getD (name s)

/-- What the names on a path are; empty names and single points lead nowhere else. -/
def steps (path : List UInt8) : List (List UInt8) :=
  (parts 0x2F path).filter fun step => step ≠ [] ∧ step ≠ [0x2E]

/-- Whether the host is the directory. -/
def isDirectory (path : String) : Host → Bool
  | directory found => steps found = steps (utf8 path)
  | name _ => false

end Host

/-- Where a connection goes, who makes it, and what it insists on. -/
structure Target where
  hosts : List Host := []
  /-- Network addresses, one for each host or in place of all hosts. -/
  addresses : List String := []
  /-- No port for the usual one, one port for all hosts, or one for each host. -/
  ports : List Nat := []
  user : Option String := none
  password : Option (List UInt8) := none
  database : Option String := none
  /-- The settings that the server is told at the start. -/
  options : Option String := none
  /-- The name of the program, which the server is told at the start. -/
  applicationName : Option String := none
  /-- Whether only an encrypted connection will do. -/
  insistsOnEncryption : Bool := false
  /-- Whether only a login that is bound to an encrypted connection will do. -/
  insistsOnBinding : Bool := false

/-- The port of a server that does not say otherwise. -/
def usualPort : Nat := 5432

/-- The value of a byte as a hexadecimal digit. -/
def hexByte? (b : UInt8) : Option Nat := Text.hexValue? (Char.ofNat b.toNat)

/-- Bytes with every percent sign and two hexadecimal digits replaced by the byte they stand for. -/
def percentDecoded : List UInt8 → List UInt8
  | 0x25 :: a :: b :: rest =>
    match hexByte? a, hexByte? b with
    | some high, some low => UInt8.ofNat (16 * high + low) :: percentDecoded rest
    | _, _ => 0x25 :: percentDecoded (a :: b :: rest)
  | b :: rest => b :: percentDecoded rest
  | [] => []

/-- The bytes that a part of a URL stands for. -/
def urlBytes (cs : List Char) : List UInt8 := percentDecoded (utf8 (String.ofList cs))

/-- The text that a part of a URL stands for. -/
def urlText? (cs : List Char) : Option String := ofUtf8? (urlBytes cs)

/-- Whether the text is a whole number between the bounds, with an optional sign. -/
def isIntegerWithin (low high : Int) (s : String) : Bool :=
  let (negative, digits) := Number.Decimal.takeSign s.toList
  let magnitude : Int := natOfDigits digits
  let n := if negative then -magnitude else magnitude
  !digits.isEmpty && digits.all Char.isDigit && low ≤ n && n ≤ high

/-- Whether the text is a natural number up to a bound, with an optional plus sign. -/
def isNaturalUpTo (high : Int) (s : String) : Bool :=
  s.toList.head? ≠ some '-' && isIntegerWithin 0 high s

/-- The parameters that do not change where a connection goes or whether it is made, with the values
that they may have. -/
def behaviours : List (String × (String → Bool)) :=
  let signed : String → Bool := isIntegerWithin (-0x8000000000000000) 0x7fffffffffffffff
  [("sslnegotiation", (["postgres", "direct"].contains ·)),
   ("connect_timeout", signed),
   ("tcp_user_timeout", signed),
   ("keepalives", isNaturalUpTo 0xffffffffffffffff),
   ("keepalives_idle", signed),
   ("keepalives_interval", signed),
   ("keepalives_retries", isNaturalUpTo 0xffffffff),
   ("target_session_attrs", (["any", "read-write", "read-only"].contains ·)),
   ("load_balance_hosts", (["disable", "random"].contains ·))]

/-- Whether a parameter that says how much something is wanted insists on it. -/
def insistence? (value : String) : Option Bool :=
  [("disable", false), ("prefer", false), ("require", true)].lookup value

namespace Target

/-- Adds the ports of a list with commas; an empty item is the usual port. -/
def addPorts (t : Target) (value : String) : Option Target := do
  let ports ← (parts ',' value.toList).mapM fun item =>
    if item.isEmpty then some usualPort else portOf? (String.ofList item)
  return { t with ports := t.ports ++ ports }

/-- Takes in one parameter of a URL; refuses unknown parameters and values. -/
def param (t : Target) (key value : String) : Option Target :=
  let items := (parts ',' value.toList).map String.ofList
  if key = "user" then some { t with user := some value }
  else if key = "password" then some { t with password := some (utf8 value) }
  else if key = "dbname" then some { t with database := some value }
  else if key = "port" then t.addPorts value
  else if key = "hostaddr" then
    if items.all isAddress then some { t with addresses := t.addresses ++ items } else none
  else if key = "options" then some { t with options := some value }
  else if key = "application_name" then some { t with applicationName := some value }
  else if key = "sslmode" then do
    return { t with insistsOnEncryption := ← insistence? value }
  else if key = "channel_binding" then do
    return { t with insistsOnBinding := ← insistence? value }
  else
    match behaviours.lookup key with
    | some isValue => if isValue value then some t else none
    | none => none

/-- Adds one host of a URL. -/
def addHost (t : Target) (host : List Char) : Option Target :=
  return { t with hosts := t.hosts ++ [← Host.ofBytes? (urlBytes host)] }

/-- The host and the port of one item of a URL's list of hosts; a host in brackets may hold colons. -/
def hostAndPort? : List Char → Option (List Char × Option (List Char))
  | '[' :: rest =>
    match rest.dropWhile (· ≠ ']') with
    | _ :: ':' :: port => some (rest.takeWhile (· ≠ ']'), some port)
    | [_] => some (rest.takeWhile (· ≠ ']'), none)
    | _ => none
  | item =>
    match item.dropWhile (· ≠ ':') with
    | _ :: port => some (item.takeWhile (· ≠ ':'), some port)
    | [] => some (item, none)

/-- Takes in one item of a URL's list of hosts. -/
def addHostItem (t : Target) (item : List Char) : Option Target := do
  let (host, port) ← hostAndPort? item
  let t ← t.addHost host
  match port with
  | some port => t.addPorts (← urlText? port)
  | none => t.addPorts (toString usualPort)

/-- Takes in the user and the password before the at sign of a URL. -/
def addCredentials (t : Target) (credentials : List Char) : Option Target := do
  let user ← urlText? (credentials.takeWhile (· ≠ ':'))
  let t := { t with user := some user }
  match credentials.dropWhile (· ≠ ':') with
  | _ :: password => return { t with password := some (urlBytes password) }
  | [] => return t

/-- Takes in one parameter of a URL as spelled. -/
def addParam (t : Target) (item : List Char) : Option Target := do
  match item.dropWhile (· ≠ '=') with
  | _ :: value =>
    let key ← urlText? (item.takeWhile (· ≠ '='))
    if key = "host" then t.addHost value else t.param key (← urlText? value)
  | [] => none

/-- The parameters of a URL as spelled; the last one may be empty. -/
def paramItems (cs : List Char) : List (List Char) :=
  let items := parts '&' cs
  if items.getLast? = some [] then items.dropLast else items

/-- The target of a URL after its scheme. -/
def ofUrl? (cs : List Char) : Option Target := do
  let credentials := cs.takeWhile (· ≠ '@')
  let (t, cs) ←
    match cs.dropWhile (· ≠ '@') with
    | _ :: rest => do pure (← addCredentials {} credentials, rest)
    | [] => pure ({}, cs)
  let inHosts (c : Char) : Bool := c ≠ '/' && c ≠ '?'
  let hosts := cs.takeWhile inHosts
  let cs := cs.dropWhile inHosts
  let t ← if hosts.isEmpty then pure t else (parts ',' hosts).foldlM addHostItem t
  let (t, cs) ←
    match cs with
    | '/' :: rest => do
      let path := rest.takeWhile (· ≠ '?')
      let t ← if path.isEmpty then pure t else
        pure { t with database := some (← urlText? path) }
      pure (t, rest.dropWhile (· ≠ '?'))
    | _ => pure (t, cs)
  match cs with
  | _ :: rest => (paramItems rest).foldlM addParam t
  | [] => return t

/-- The directories in which the socket of a server is sought if no host is given. -/
def usualDirectories : List String := ["/run/postgresql", "/var/run/postgresql", "/tmp"]

end Target

/-- Why a connection string is refused. -/
inductive TargetFault where
  | invalidUrl
  | noDatabase
  | emptyDatabase
  deriving DecidableEq

/-- The words for each fault. -/
def TargetFault.message : TargetFault → String
  | .invalidUrl => "configuration property \"url\" is invalid: invalid connection string"
  | .noDatabase => "configuration property \"dbname\" not found"
  | .emptyDatabase => "configuration property \"dbname\" contains an empty string"

/-- The text, unless it is empty. -/
def nonempty? (s : Option String) : Option String := s.filter fun s => !s.isEmpty

/-- The target of settings: what they set beside a URL counts before what the URL says. -/
def Settings.target (s : Settings) : Except TargetFault Target := do
  let base ←
    match s.url.bind Settings.afterScheme? with
    | some cs =>
      match Target.ofUrl? cs with
      | some t => pure t
      | none => throw .invalidUrl
    | none => pure {}
  let database := nonempty? s.database <|> base.database
  match database with
  | none => throw .noDatabase
  | some name => if name.isEmpty then throw .emptyDatabase
  let hosts := base.hosts ++ (s.host.map Host.ofText).toList
  return { base with
    hosts := if hosts.isEmpty then Target.usualDirectories.map Host.ofText else hosts
    ports := base.ports ++ s.port.toList
    user := nonempty? s.user <|> base.user
    password := (s.password.map utf8) <|> base.password
    database := database }

end GridRows.Postgres
