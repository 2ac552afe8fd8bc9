/-
# Rows of a result

A row has values and the names of the columns they belong to.  Names may repeat, and a row
may have more or fewer values than names.  A lookup by name goes to the first column of that
name; the mapping of a row gives each name its last value.
-/
import BulkValues.Value.Basic

namespace BulkValues

/-- One row of a result. -/
structure Row where
  /-- The names of the columns. -/
  columns : List String
  /-- The values, column by column. -/
  values : List Value

/-- What is known of a column of a result. -/
structure Column where
  /-- The name. -/
  name : String
  /-- The type as the database names it. -/
  type : String
  /-- The position, from zero. -/
  ordinal : Nat
deriving DecidableEq

/-- The result of a query. -/
structure QueryResult where
  /-- The columns. -/
  columns : List Column
  /-- The rows. -/
  rows : List Row
  /-- How many rows the statement changed. -/
  affected : Nat

namespace Row

/-- The value at a position. -/
def get? (r : Row) (i : Nat) : Option Value := r.values[i]?

/-- The value under the first column of a name. -/
def getByName? (r : Row) (name : String) : Option Value :=
  match r.columns.idxOf? name with
  | some i => r.values[i]?
  | none => none

/-- The values under their names; of several with one name the last. -/
def toMap (r : Row) : List (String × Value) := orderByArrival (r.columns.zip r.values)

/-- Look a name up in the mapping of a row. -/
def lookup? (r : Row) (name : String) : Option Value := (r.toMap.find? (·.1 == name)).map (·.2)

end Row

namespace QueryResult

/-- A result without columns and rows. -/
def empty : QueryResult := ⟨[], [], 0⟩

/-- Whether there is a row. -/
def hasRows (r : QueryResult) : Bool := !r.rows.isEmpty

end QueryResult

end BulkValues
