/-
# How a server is reached

The host, port, database and user that a connection configuration stands for, and the URL that
names them.  A port among the parameters goes before the port of the configuration.
-/
import BulkValues.ConnectionConfig
import BulkValues.Error
import BulkValues.Number.Reader
import BulkValues.Text.Blank

namespace BulkValues.Postgres

open BulkValues.Number BulkValues.Text

-- The power is the core library's, also where another one is in scope.
attribute [local instance (high)] instPowNat

/-- What is needed to reach a server and to log in. -/
structure Server where
  /-- A host name, or the directory of a socket. -/
  host : String
  /-- The port. -/
  port : Nat
  /-- The database. -/
  database : String
  /-- The user, if one is named. -/
  user : Option String
  /-- The password, if there is one. -/
  password : Option String
  /-- What the client calls itself. -/
  applicationName : Option String
  /-- The seconds after which connecting is given up. -/
  connectTimeout : Option Nat
deriving DecidableEq, Repr

/-- The usual port. -/
def defaultPort : Nat := 5432

/-- The host of a configuration. -/
def hostOf (c : ConnectionConfig) : String := (c.get? "host").getD "localhost"

/-- The port of a configuration. -/
def portOf (c : ConnectionConfig) : Except Error Nat :=
  match c.params.get? "port" with
  | some text =>
    match readNat? (2 ^ (16 : Nat)) (trimChars text.toList) with
    | some n => .ok n
    | none => .error (.badPort text)
  | none => .ok (if c.port = 0 then defaultPort else c.port)

/-- The database of a configuration. -/
def databaseOf (c : ConnectionConfig) : String := (c.get? "dbname").getD "postgres"

/-- The user of a configuration. -/
def userOf (c : ConnectionConfig) : Option String := c.get? "user"

/-- The connection timeout of a configuration. -/
def connectTimeoutOf (c : ConnectionConfig) : Except Error (Option Nat) :=
  match c.get? "connect_timeout" with
  | none => .ok none
  | some text =>
    match readNat? (2 ^ (64 : Nat)) (trimChars text.toList) with
    | some n => .ok (some n)
    | none => .error (.badConnectTimeout text)

/-- The server of a configuration. -/
def Server.ofConfig (c : ConnectionConfig) : Except Error Server := do
  let port ← portOf c
  let connectTimeout ← connectTimeoutOf c
  pure
    { host := hostOf c
      port
      database := databaseOf c
      user := userOf c
      password := c.get? "password"
      applicationName := c.get? "application_name"
      connectTimeout }

/-- Whether the host is the directory of a socket. -/
def Server.isLocal (s : Server) : Bool := s.host.startsWith "/"

/-- The URL of a configuration; a port that is none counts as the usual one. -/
def url (c : ConnectionConfig) : String :=
  let login := match userOf c with
    | none => ""
    | some user =>
      match c.get? "password" with
      | none => user ++ "@"
      | some password => user ++ ":" ++ password ++ "@"
  let port := match portOf c with
    | .ok n => n
    | .error _ => defaultPort
  "postgresql://" ++ login ++ hostOf c ++ ":" ++ toString port ++ "/" ++ databaseOf c

end BulkValues.Postgres
