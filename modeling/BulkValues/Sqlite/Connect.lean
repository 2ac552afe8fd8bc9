/-
# Opening a database

The database in memory can always be opened.  A file must lie in a directory that is there and
be none itself; it may be missing, and one that is there must hold a database.
-/
import BulkValues.Sqlite.Path

namespace BulkValues.Sqlite

/-- What the first bytes of a database are. -/
def signature : List UInt8 := "SQLite format 3\x00".toUTF8.toList

/-- Whether bytes can be a database; an empty file becomes one. -/
def isDatabase (bytes : List UInt8) : Bool := bytes.isEmpty || signature.isPrefixOf bytes

/-- Open the file at an absolute path. -/
def openFile (files : FileTree) (path : String) : Except Error Unit :=
  let directory := FileTree.parentOf path
  let failed := Error.cannotOpen path ("unable to open database file: " ++ path)
  if !files.hasPath directory then .error (.missingParent directory)
  else match files.locate path with
    | .error _ => .error failed
    | .ok parts =>
      if files.isDirectory parts then .error failed
      else match files.read path with
        | .ok bytes => if isDatabase bytes then .ok () else .error .notADatabase
        | .error .missing => .ok ()
        | .error _ => .error failed

/-- Open a database. -/
def openPath (files : FileTree) (places : Places) (path : String) : Except Error Unit := do
  let expanded ← expandPath places path
  if isSpecial path then pure () else openFile files expanded

/-- Open the database of a configuration. -/
def connect (files : FileTree) (places : Places) (c : ConnectionConfig) : Except Error Unit := do
  openPath files places (← pathOf c)

end BulkValues.Sqlite
