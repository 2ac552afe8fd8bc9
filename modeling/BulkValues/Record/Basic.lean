/-
# Records

A record is one row of input: values bound by position, or values under field names.  Before
it is rendered a record is adapted: a mapping at its top level becomes the JSON document of
that mapping, and everything else stays as it is.
-/
import BulkValues.Error
import BulkValues.Fields
import BulkValues.Json.Printer
import BulkValues.Json.Reader
import BulkValues.Value.Json

namespace BulkValues

/-- One row of input. -/
inductive Record where
  /-- Values bound by position. -/
  | positional (values : List Value)
  /-- Values bound by field name. -/
  | named (fields : Fields Value)

namespace Record

/-- The values in order. -/
def values : Record → List Value
  | positional vs => vs
  | named fs => fs.values

/-- The number of values. -/
def size : Record → Nat
  | positional vs => vs.length
  | named fs => fs.size

/-- The kind of a record, in the words of an error. -/
def kind : Record → String
  | positional _ => "positional"
  | named _ => "named"

/-- The record of a JSON document, which must be an array or an object. -/
def ofJson : Json → Except Error Record
  | .array items => .ok (positional (Value.ofJsonItems items))
  | .object fields => .ok (named (.ofList (Value.ofJsonFields fields)))
  | doc => .error (.notARecord doc.text)

/-- A mapping becomes a document. -/
def adaptValue : Value → Value
  | .map fields => .json (Value.toJson (.map fields))
  | v => v

/-- Whether no value at the top level is a mapping. -/
def isAdapted (r : Record) : Bool := !r.values.any Value.isMap

/-- The record built again from its values, with documents for mappings. -/
def rebuild : Record → Record
  | positional vs => positional (vs.map adaptValue)
  | named fs => named (fs.map adaptValue)

/-- The record with documents for mappings at its top level. A record that has none is not built
again. -/
def adapt (r : Record) : Record := if r.isAdapted then r else r.rebuild

/-- Equality of records of one kind, with `Value.same` for the values. -/
def same : Record → Record → Bool
  | positional xs, positional ys => Value.sameItems xs ys
  | named fs, named gs => Value.sameFields fs.entries gs.entries
  | _, _ => false

end Record

end BulkValues
