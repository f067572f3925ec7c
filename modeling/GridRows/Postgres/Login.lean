import GridRows.Postgres.ConnectionString

/-!
# Logging in to PostgreSQL

A client tries the places of its target one after the other.  At each of them it finds a server, says
who it is, and sends a password if it is asked for one; the first of these steps that fails is why
there is no login.  The server speaks in the clear and binds no login to an encrypted connection, so
a target that insists on either is let down.
-/

namespace GridRows.Postgres

/-- A server as seen from a client. -/
structure Server where
  /-- The directory of its sockets. -/
  directory : String
  /-- The ports that it listens on. -/
  ports : List Nat
  asksPassword : Bool

/-- A login that a server grants. -/
structure Login where
  port : Nat
  user : String
  database : String
  /-- The password, if the server asked for one. -/
  password : Option (List UInt8)

/-- Why a login fails. -/
inductive LoginFault where
  /-- No server is found. -/
  | unreachable
  /-- The target contradicts itself or lacks what the server asks for. -/
  | misconfigured
  /-- The target insists on an encrypted connection. -/
  | unencrypted
  /-- The target insists on a login that is bound to an encrypted connection. -/
  | unbound
  /-- What is to be sent holds the character that ends texts on the wire. -/
  | unsendable
  deriving DecidableEq

/-- The words for each fault. -/
def LoginFault.message : LoginFault → String
  | .unreachable => "error connecting to server"
  | .misconfigured => "invalid configuration"
  | .unencrypted => "error performing TLS handshake"
  | .unbound => "authentication error"
  | .unsendable => "error encoding message to server"

/-- The user who logs in. -/
def Target.userOr (t : Target) (ownName : String) : String :=
  match t.user with
  | some user => if user.isEmpty then ownName else user
  | none => ownName

/-- The texts that the server is told at the start. -/
def Target.greeting (t : Target) (ownName : String) : List String :=
  t.userOr ownName :: (t.database.toList ++ t.options.toList ++ t.applicationName.toList)

/-- The password that is sent to a server that asks for one. -/
def Target.sentPassword (t : Target) : Except LoginFault (List UInt8) :=
  if t.insistsOnBinding then .error .unbound
  else
    match t.password with
    | none => .error .misconfigured
    | some password => if password.contains 0 then .error .unsendable else .ok password

/-- What comes of one attempt to log in: the server may grant a login that the client gives up. -/
structure Attempt where
  granted : Option Login := none
  fault : Option LoginFault := none

/-- Logs in at one place; a network address or name is no place of the server's sockets. -/
def Server.loginAt (server : Server) (t : Target) (ownName : String) (host : Option Host)
    (port : Nat) : Attempt :=
  let login (password : Option (List UInt8)) : Login :=
    ⟨port, t.userOr ownName, t.database.getD "", password⟩
  if ¬ host.any (·.isDirectory server.directory) ∨ ¬ server.ports.contains port then
    { fault := some .unreachable }
  else if t.insistsOnEncryption then { fault := some .unencrypted }
  else if (t.greeting ownName).any (·.toList.contains '\x00') then { fault := some .unsendable }
  else if server.asksPassword then
    match t.sentPassword with
    | .ok password => { granted := some (login (some password)) }
    | .error fault => { fault := some fault }
  else
    { granted := some (login none), fault := if t.insistsOnBinding then some .unbound else none }

/-- The place of a host: an address given for it goes before its name. -/
def Target.places (t : Target) : List (Option Host × Nat) :=
  let count := max t.hosts.length t.addresses.length
  (List.range count).map fun i =>
    (if i < t.addresses.length then none else t.hosts[i]?,
      (t.ports[i]? <|> t.ports.head?).getD usualPort)

/-- Whether hosts, addresses and ports belong together. -/
def Target.isConsistent (t : Target) : Bool :=
  (t.hosts.length == t.addresses.length || t.hosts.isEmpty || t.addresses.isEmpty) &&
    (t.ports.length ≤ 1 || t.ports.length == max t.hosts.length t.addresses.length)

/-- What comes of logging in at one place after the other. -/
structure Login.Outcome where
  /-- The logins that the server granted, in order. -/
  granted : List Login := []
  /-- Why there is no connection, if there is none; at first, because no place is given. -/
  fault : Option LoginFault := some .misconfigured

/-- Tries the next place, unless an earlier one has let the client in. -/
def Login.Outcome.next (o : Login.Outcome) (attempt : Attempt) : Login.Outcome :=
  match o.fault with
  | none => o
  | some _ => ⟨o.granted ++ attempt.granted.toList, attempt.fault⟩

/-- Logs in at the first place that lets the client in; the fault is that of the last place. -/
def Server.login (server : Server) (t : Target) (ownName : String) : Login.Outcome :=
  if t.isConsistent then
    t.places.foldl (fun o place => o.next (server.loginAt t ownName place.1 place.2)) {}
  else {}

end GridRows.Postgres
