/-
# What SQLite stores

SQLite knows five types of value.  A value that is bound as a parameter is stored as the
nearest of them, with a text form for everything that is neither a number nor bytes; a value
that is read back has the widest type of its class.
-/
import BulkValues.Value.Display

namespace BulkValues.Sqlite

open BulkValues.Number

/-- A value in a SQLite database. -/
inductive Stored where
  | null
  | integer (n : Int64)
  | real (x : Binary64)
  | text (s : String)
  | blob (bs : List UInt8)
deriving DecidableEq, Repr

namespace Stored

/-- A float as it is stored; there is no NaN. -/
def ofFloat (x : Binary64) : Stored := if x.isNaN then .null else .real x

/-- A value as it is stored when it is bound as a parameter. -/
def ofValue : Value → Stored
  | .null => .null
  | .bool b => .integer (if b then 1 else 0)
  | .int16 n => .integer n.toInt64
  | .int32 n => .integer n.toInt64
  | .int64 n => .integer n
  | .float32 x => ofFloat x.widen
  | .float64 x => ofFloat x
  | .decimal d => .text d
  | .string s => .text s
  | .bytes bs => .blob bs
  | .uuid u => .text u.text
  | .date d => .text d.text
  | .time t => .text t.text
  | .dateTime t => .text t.text
  | .instant t => .text (Value.instantText t)
  | v => .text (Value.toJson v).text

/-- A stored value as it is read back. -/
def toValue : Stored → Value
  | null => .null
  | integer n => .int64 n
  | real x => .float64 x
  | text s => .string s
  | blob bs => .bytes bs

/-- The name of the type of a stored value. -/
def typeName : Stored → String
  | null => "null"
  | integer _ => "integer"
  | real _ => "real"
  | text _ => "text"
  | blob _ => "blob"

end Stored

end BulkValues.Sqlite
