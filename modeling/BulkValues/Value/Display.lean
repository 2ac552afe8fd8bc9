/-
# Values as they are shown

The text of a value in a table: scalars as they are, bytes, arrays and mappings by their size.
-/
import BulkValues.Json.Printer
import BulkValues.Value.Json

namespace BulkValues

namespace Value

/-- The display text of a value. -/
def display : Value → String
  | null => "NULL"
  | bool b => if b then "true" else "false"
  | int16 n => toString n.toInt
  | int32 n => toString n.toInt
  | int64 n => toString n.toInt
  | float32 x => x.display
  | float64 x => x.display
  | decimal text => text
  | string s => s
  | bytes bs => "<" ++ toString bs.length ++ " bytes>"
  | uuid u => u.text
  | date d => d.text
  | time t => t.text
  | dateTime t => t.text
  | instant t => t.text ++ " UTC"
  | json doc => doc.text
  | array items => "[" ++ toString items.length ++ " items]"
  | map fields => "\x7b" ++ toString fields.length ++ " fields\x7d"

end Value

end BulkValues
