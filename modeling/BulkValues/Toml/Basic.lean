/-
# TOML documents

A document is a table of named values.  While it is read, a table also remembers how it came
about, because that decides whether later lines may still add to it: a table under its own
header is complete but for tables inside it, a table that only stands on the way to another
header may get a header once, and a table made by dotted keys grows with further dotted keys.
-/
import BulkValues.Number.Binary

namespace BulkValues

open BulkValues.Number

/-- A value of a document. -/
inductive Toml where
  | string (s : String)
  | integer (n : Int)
  | float (x : Binary64)
  | boolean (b : Bool)
  /-- A date, a time of day, or both, by its text. -/
  | date (text : String)
  | array (items : List Toml)
  | table (fields : List (String × Toml))

namespace Toml

/-- How a table came about. -/
inductive Origin where
  /-- Under a header of its own. -/
  | header
  /-- On the way to the header of a table inside it. -/
  | above
  /-- By a dotted key. -/
  | dotted
deriving DecidableEq, Repr

/-- What stands under a name while a document is read. -/
inductive Item where
  /-- A value, to which nothing can be added. -/
  | value (v : Toml)
  /-- A table. -/
  | table (origin : Origin) (entries : List (String × Item))
  /-- A list of tables, each under a header of its own. -/
  | tables (rows : List (List (String × Item)))

/-- The entries of a table that is being read. -/
abbrev Entries := List (String × Item)

mutual

/-- The value of an item. -/
def Item.toToml : Item → Toml
  | .value v => v
  | .table _ entries => .table (entriesToToml entries)
  | .tables rows => .array (rowsToToml rows)

/-- The values of entries, under their names. -/
def entriesToToml : List (String × Item) → List (String × Toml)
  | [] => []
  | (name, item) :: rest => (name, item.toToml) :: entriesToToml rest

/-- The tables of rows. -/
def rowsToToml : List (List (String × Item)) → List Toml
  | [] => []
  | row :: rest => .table (entriesToToml row) :: rowsToToml rest

end

/-- The item under a name. -/
def find? (name : String) (entries : Entries) : Option Item :=
  (entries.find? fun e => e.1 == name).map (·.2)

/-- Put an item under a name, in the place of the one that stands there. -/
def put (name : String) (item : Item) : Entries → Entries
  | [] => [(name, item)]
  | (n, i) :: rest => if n = name then (n, item) :: rest else (n, i) :: put name item rest

/-- Change the table at a path, making the tables on the way.  The change is given whether the
table was made by dotted keys.  In a list of tables the path goes on in the last one.  A dotted
path does not enter a table that has a header. -/
def modify (dotted : Bool) (change : Bool → Entries → Option Entries) :
    List String → Bool → Entries → Option Entries
  | [], made, entries => change made entries
  | key :: path, _, entries =>
    match find? key entries with
    | none => do
      let sub ← modify dotted change path dotted []
      pure (put key (.table (if dotted then .dotted else .above) sub) entries)
    | some (.value _) => none
    | some (.tables rows) =>
      match rows.reverse with
      | [] => none
      | last :: before => do
        let sub ← modify dotted change path false last
        pure (put key (.tables (sub :: before).reverse) entries)
    | some (.table origin sub) =>
      if dotted && origin == .header then none
      else do
        let sub ← modify dotted change path (origin == .dotted) sub
        pure (put key (.table origin sub) entries)

/-- Add a value under a dotted key, whose last part is `name`.  The name must be new, and a key
of several parts must end in a table that dotted keys have made. -/
def assign (path : List String) (name : String) (v : Toml) (entries : Entries) :
    Option Entries :=
  modify true
    (fun made entries =>
      if made == path.isEmpty then none
      else if (find? name entries).isSome then none
      else some (put name (.value v) entries))
    path false entries

/-- Give a table its header. -/
def openTable (path : List String) (name : String) (entries : Entries) : Option Entries :=
  modify false
    (fun _ entries =>
      match find? name entries with
      | none => some (put name (.table .header []) entries)
      | some (.table .above sub) => some (put name (.table .header sub) entries)
      | some _ => none)
    path false entries

/-- Add a table to a list of tables. -/
def openRow (path : List String) (name : String) (entries : Entries) : Option Entries :=
  modify false
    (fun _ entries =>
      match find? name entries with
      | none => some (put name (.tables [[]]) entries)
      | some (.tables rows) => some (put name (.tables (rows ++ [[]])) entries)
      | some _ => none)
    path false entries

/-- What a value is called. -/
def typeName : Toml → String
  | string _ => "string"
  | integer _ => "integer"
  | float _ => "float"
  | boolean _ => "boolean"
  | date _ => "datetime"
  | array _ => "array"
  | table _ => "table"

end Toml

end BulkValues
