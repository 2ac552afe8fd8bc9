/-
# Connection configuration

What is needed to open a connection: the driver, the server or file, the user, and further
parameters.  A text is looked up among the further parameters first, then in the fields.
-/
import BulkValues.Json.Printer
import BulkValues.Params

namespace BulkValues

/-- The configuration of a connection. -/
structure ConnectionConfig where
  /-- The name it is shown by. -/
  name : String
  /-- The name of the driver. -/
  driver : String
  /-- The host; empty for files. -/
  host : String := ""
  /-- The port; zero for the usual one. -/
  port : Nat := 0
  /-- The database or the path of the file. -/
  database : Option String := none
  /-- The user. -/
  username : Option String := none
  /-- The password. -/
  password : Option String := none
  /-- Further parameters. -/
  params : Params := .empty

namespace ConnectionConfig

/-- The configuration of a database file. -/
def forFile (path : String) : ConnectionConfig :=
  { name := "SQLite Database", driver := "sqlite", database := some path }

/-- The configuration of a server. -/
def forServer (host : String) (port : Nat) (database username : String) : ConnectionConfig :=
  { name := "PostgreSQL", driver := "postgres", host, port, database := some database,
    username := some username }

/-- Set a further parameter. -/
def withParam (c : ConnectionConfig) (key value : String) : ConnectionConfig :=
  { c with params := c.params.insert key value }

/-- The text of a document as a parameter: strings as they are. -/
def paramText : Json → String
  | .string s => s
  | doc => doc.text

/-- The field that a parameter name stands for. -/
def field? (c : ConnectionConfig) (key : String) : Option String :=
  if key = "host" then (if c.host.isEmpty then none else some c.host)
  else if key = "database" ∨ key = "dbname" ∨ key = "path" then c.database
  else if key = "username" ∨ key = "user" then c.username
  else if key = "password" then c.password
  else none

/-- The text of a parameter or of the field that it stands for. -/
def get? (c : ConnectionConfig) (key : String) : Option String :=
  (c.params.get? key).or (c.field? key)

end ConnectionConfig

end BulkValues
