/-
# Nodes

A settings file has a table for every node, with a section for single connections and one for
pools.  If only one of them is there it serves for both.  The file is the one that is named, or
the nearest of its name at or above the working directory.
-/
import BulkValues.FileTree
import BulkValues.Settings.Section
import BulkValues.Toml.Document

namespace BulkValues

open BulkValues.Text

/-- The settings of a node. -/
structure Node where
  /-- The name of the node. -/
  name : String
  /-- The file that the settings were read from. -/
  source : Option String
  /-- The settings of single connections. -/
  connection : Section
  /-- The settings of pools. -/
  connectionPool : Section

namespace Node

/-- A section of a node. -/
def sectionOf (n : Node) : SectionKind → Section
  | .connection => n.connection
  | .connectionPool => n.connectionPool

/-- The fields of a value that must be a table if it is there. -/
def tableOf? : Option Toml → Except Error (Option (List (String × Toml)))
  | none => .ok none
  | some (.table fields) => .ok (some fields)
  | some _ => .error .badSettingsFile

/-- The tables of a node's two sections. A node may also be a list with the sections in their
order. -/
def sectionTables : Toml →
    Except Error (Option (List (String × Toml)) × Option (List (String × Toml)))
  | .table fields => do
    let find (kind : SectionKind) := (fields.find? fun f => f.1 == kind.name).map (·.2)
    pure (← tableOf? (find .connection), ← tableOf? (find .connectionPool))
  | .array items => do
    let found := (← tableOf? items[0]?, ← tableOf? items[1]?)
    if items.length ≤ 2 then pure found else .error .badSettingsFile
  | _ => .error .badSettingsFile

/-- The section of a table, if there is one. -/
def readSection? : Option (List (String × Toml)) → Except Error (Option Section)
  | none => .ok none
  | some fields => (Section.ofTable fields).map some

/-- The settings of a node in the text of a settings file. -/
def ofText (text node : String) : Except Error Node := do
  let fields ← match Toml.read? text with
    | some fields => .ok fields
    | none => .error .badSettingsFile
  let value ← match fields.find? fun f => f.1 == node with
    | some f => .ok f.2
    | none => .error (.unknownNode node)
  let (connection, pool) ← sectionTables value
  let connection ← readSection? connection
  let pool ← readSection? pool
  match connection, pool with
  | none, none => .error (.emptyNode node)
  | some s, none => .ok ⟨node, none, s, s⟩
  | none, some s => .ok ⟨node, none, s, s⟩
  | some s, some t => .ok ⟨node, none, s, t⟩

/-! ## Finding the file -/

/-- The settings of a node in a file. -/
def load (files : FileTree) (path node : String) : Except Error Node :=
  match files.readText path with
  | .error e => .error (.unreadableSettings path e.message)
  | .ok content => (ofText content node).map fun n => { n with source := some path }

/-- The name of the settings file. -/
def fileName : String := "project.toml"

/-- The nearest settings file at or above a directory. -/
def findFile? (files : FileTree) (directory : String) : Option String :=
  ((directory :: FileTree.above directory).map fun d => FileTree.join d fileName).find?
    files.isFile

/-- The settings of a node in the file that is named, or in the nearest one. -/
def resolve (files : FileTree) (node file : Option String) (directory : String) :
    Except Error Node := do
  let node ← match node with
    | some n => if allBlank n then .error .unnamedNode else .ok n
    | none => .error .unnamedNode
  let path ← match file with
    | some path => .ok path
    | none =>
      match findFile? files directory with
      | some path => .ok path
      | none => .error (.noSettingsFile directory)
  load files path node

end Node

end BulkValues
