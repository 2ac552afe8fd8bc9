/-
# The table of items

The one table of this model has an integer key, a unique name and a third column without a
type.  Rows are kept in the order of their keys.  A row that is put in is converted to the
types of its columns and then checked: the key must be an integer, the name must not be null,
and neither may be present already, in this order.  A statement puts in all of its rows or
none.
-/
import BulkValues.Sqlite.Affinity
import BulkValues.Sqlite.Statement

namespace BulkValues.Sqlite

/-- A row of the table. -/
structure Item where
  /-- The key. -/
  id : Int64
  /-- The name: text or bytes. -/
  name : Stored
  /-- Anything. -/
  info : Stored
deriving DecidableEq, Repr

namespace Item

/-- The row as its values in order. -/
def values (i : Item) : List Stored := [.integer i.id, i.name, i.info]

end Item

/-- The rows of the table in the order of their keys. -/
abbrev Items := List Item

namespace Items

/-- Put a row in at its place. -/
def insert (i : Item) : Items → Items
  | [] => [i]
  | j :: rest => if i.id < j.id then i :: j :: rest else j :: insert i rest

/-- The largest key up to a bound that is not taken, where the taken keys up to the bound are
given from the largest down. -/
def largestFree (bound : Int64) : List Int64 → Int64
  | [] => bound
  | k :: rest => if k = bound then largestFree (bound - 1) rest else bound

/-- The key of a row that is given none: one more than the largest, and the largest that is not
taken where the largest integer is. -/
def nextId (t : Items) : Int64 :=
  match t.getLast? with
  | none => 1
  | some i =>
    if i.id = Int64.maxValue then largestFree Int64.maxValue (t.reverse.map Item.id) else i.id + 1

/-- The key for a value. -/
def idFor (t : Items) : Stored → Except Refusal Int64
  | .null => .ok t.nextId
  | v =>
    match v.toInteger? with
    | some n => .ok n
    | none => .error (.coded "datatype mismatch" "TypeMismatch" 20)

/-- A rule of the table that a row would break. -/
def broken (rule column : String) (number : Nat) : Refusal :=
  .coded (rule ++ " constraint failed: items." ++ column) "ConstraintViolation" number

/-- Put a row in: the row as it is kept and the table after it. -/
def put (t : Items) (id name info : Stored) : Except Refusal (Item × Items) := do
  let key ← t.idFor id
  let item : Item := ⟨key, name.asText, info⟩
  if item.name = .null then throw (broken "NOT NULL" "name" 1299)
  if t.any (·.id == key) then throw (broken "UNIQUE" "id" 1555)
  if t.any (·.name == item.name) then throw (broken "UNIQUE" "name" 2067)
  pure (item, t.insert item)

/-- Put rows in one after the other: the rows as they are kept and the table after them. -/
def putAll : Items → List (Stored × Stored × Stored) → Except Refusal (List Item × Items)
  | t, [] => .ok ([], t)
  | t, (id, name, info) :: rest => do
    let (item, t) ← t.put id name info
    let (items, t) ← putAll t rest
    pure (item :: items, t)

/-- Take out the rows whose key is not below a bound: how many there are, and the rest. -/
def takeOut (t : Items) (bound : Stored) : Nat × Items :=
  match bound.lowerBound? with
  | none => (0, t)
  | some n =>
    let kept := t.filter fun i => i.id.toInt < n
    (t.length - kept.length, kept)

end Items

/-- What is stored: the table, once it is defined. -/
abbrev Catalog := Option Items

namespace Catalog

/-- The name of the table. -/
def tableName : String := "items"

/-- Whether a name is that of the table, in any letter case. -/
def isTable (name : String) : Bool := name.map Char.toLower == tableName

/-- The names and declared types of the columns; a column without a type has values of any. -/
def tableColumns : List (String × String) :=
  [("id", "INTEGER"), ("name", "TEXT"), ("meta", "DYNAMIC")]

/-- What a term stands for when the parameters have values. -/
def valueOf (parameters : List Stored) : Term → Stored
  | .constant v => v
  | .parameter i => parameters.getD i .null
  | .name .. => .null

/-- How many parameters a statement with these terms has. -/
def parameterCount (terms : List Term) : Nat :=
  terms.foldl (fun n t => match t with
    | .parameter i => max n (i + 1)
    | _ => n) 0

/-- Refuse a name among terms. -/
def checkTerms (sql : String) (terms : List Term) : Except Refusal Unit :=
  terms.forM fun t => match t with
    | .name name offset => .error (.located ("no such column: " ++ name) sql offset)
    | _ => .ok ()

/-- The table of a name. -/
def find (c : Catalog) (name : String) : Except Refusal Items :=
  match c with
  | some t => if isTable name then .ok t else .error (.plain ("no such table: " ++ name))
  | none => .error (.plain ("no such table: " ++ name))

/-- A statement that only reads. -/
def reading (columns : List (String × String)) (parameters : Nat)
    (rows : List Stored → Catalog → List (List Stored)) : Prepared Catalog where
  columns := columns
  parameters := parameters
  changesRows := false
  run given c := .ok ⟨c, rows given c, 0⟩
  changed_eq_zero := by
    rintro - given c effect ⟨⟩
    rfl

/-- The table is defined. -/
def creating : Prepared Catalog where
  columns := []
  parameters := 0
  changesRows := false
  run _ _ := .ok ⟨some [], [], 0⟩
  changed_eq_zero := by
    rintro - given c effect ⟨⟩
    rfl

/-- Rows put into the table. -/
def inserting (rows : List (List Term)) (returning : Bool) : Prepared Catalog where
  columns := if returning then tableColumns else []
  parameters := parameterCount rows.flatten
  changesRows := true
  run given c := do
    let (kept, t) ← (c.getD []).putAll (rows.map fun row =>
      let value (i : Nat) := (row[i]?.map (valueOf given)).getD .null
      (value 0, value 1, value 2))
    pure ⟨some t, if returning then kept.map Item.values else [], kept.length⟩
  changed_eq_zero := nofun

/-- Rows taken out of the table. -/
def deleting (bound : Term) : Prepared Catalog where
  columns := []
  parameters := parameterCount [bound]
  changesRows := true
  run given c :=
    let (n, t) := (c.getD []).takeOut (valueOf given bound)
    .ok ⟨some t, [], n⟩
  changed_eq_zero := nofun

/-- The number of values of a row that is put into the table must be that of its columns. -/
def checkWidth (columns : Option (List String)) (width : Nat) : Except Refusal Unit :=
  if width = tableColumns.length then .ok ()
  else match columns with
    | some cs =>
      .error (.plain (toString width ++ " values for " ++ toString cs.length ++ " columns"))
    | none => .error (.plain ("table items has " ++ toString tableColumns.length ++
        " columns but " ++ toString width ++ " values were supplied"))

/-- The number of values in each row of a list; all rows have as many as the first. -/
def width (rows : List (List Term)) : Nat := (rows.head?.map List.length).getD 0

/-- Prepare a statement. -/
def prepareStatement (sql : String) (c : Catalog) : Statement → Except Refusal (Prepared Catalog)
  | .create table offset =>
    if c.isSome then .error (.located ("table " ++ table ++ " already exists") sql offset)
    else .ok creating
  | .insert table columns rows returning => do
    let _ ← c.find table
    checkTerms sql rows.flatten
    checkWidth columns (width rows)
    pure (inserting rows returning)
  | .delete table bound => do
    let _ ← c.find table
    checkTerms sql [bound]
    pure (deleting bound)
  | .all table => do
    let _ ← c.find table
    pure (reading tableColumns 0 fun _ c => (c.getD []).map Item.values)
  | .count table name => do
    let _ ← c.find table
    pure (reading [(name, "DYNAMIC")] 0 fun _ c =>
      [[.integer (Int64.ofNat (c.getD []).length)]])
  | .list table columns rows => do
    if width rows ≠ columns.length then
      throw (.plain ("table " ++ table ++ " has " ++ toString (width rows) ++ " values for " ++
        toString columns.length ++ " columns"))
    checkTerms sql rows.flatten
    pure (reading (columns.map (·, "DYNAMIC")) (parameterCount rows.flatten) fun given _ =>
      rows.map (·.map (valueOf given)))

/-- The engine of the one table. -/
def engine : Engine Catalog where
  prepare sql c := do prepareStatement sql c (← Statement.read sql)

end Catalog

end BulkValues.Sqlite
