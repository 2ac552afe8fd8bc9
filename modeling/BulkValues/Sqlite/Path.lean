/-
# Paths of database files

A path may start at the home directory or at the working directory; the database in memory and
URIs are no paths and stay as they are.
-/
import BulkValues.ConnectionConfig
import BulkValues.Error
import BulkValues.FileTree

namespace BulkValues.Sqlite

/-- The directories that paths can start from. -/
structure Places where
  /-- The home directory. -/
  home : String
  /-- The working directory. -/
  current : String

/-- The name of a database that is only in memory. -/
def inMemory : String := ":memory:"

/-- Whether a path is the database in memory or a URI. -/
def isSpecial (path : String) : Bool := path == inMemory || path.startsWith "file:"

/-- The absolute form of a path. -/
def expandPath (places : Places) (path : String) : Except Error String :=
  if isSpecial path then .ok path
  else
    match path.toList with
    | '~' :: '/' :: rest => .ok (FileTree.join places.home (String.ofList rest))
    | '~' :: _ => .error .foreignHome
    | _ => .ok (FileTree.join places.current path)

/-- The path of a configuration, which must be there. -/
def pathOf (c : ConnectionConfig) : Except Error String :=
  match c.get? "path" with
  | some path => .ok path
  | none => .error .missingPath

/-- The connection string of a configuration: its path, or the database in memory. -/
def connectionString (c : ConnectionConfig) : String := (c.get? "path").getD inMemory

end BulkValues.Sqlite
