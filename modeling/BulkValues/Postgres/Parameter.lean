/-
# Parameters of a statement

A value is bound to a parameter as one of fewer kinds, each with a binary form.  The type that
the statement expects decides the width of integers and floats and whether a text is read as a
JSON document; everything else goes by the value alone.
-/
import BulkValues.Calendar.Basic
import BulkValues.Json.Printer
import BulkValues.Json.Reader
import BulkValues.Number.BigEndian
import BulkValues.Postgres.ColumnType
import BulkValues.Value.Json

namespace BulkValues.Postgres

open BulkValues.Number BulkValues.Calendar

/-- What is bound to a parameter. -/
inductive Parameter where
  | null
  | bool (b : Bool)
  | int16 (n : Int16)
  | int32 (n : Int32)
  | int64 (n : Int64)
  | float32 (x : Binary32)
  | float64 (x : Binary64)
  | string (s : String)
  | bytes (bs : List UInt8)
  | uuid (u : Uuid)
  | json (doc : Json)
  | instant (t : DateTime)
  | date (d : Date)
  | time (t : TimeOfDay)
  | dateTime (t : DateTime)

/-- The day that dates and moments are counted from. -/
def epochDay : Int := 730119

/-- The microseconds of a time of day, with those of a leap second. -/
def microsOfDay (t : TimeOfDay) : Int := t.seconds * 1000000 + t.nanos / 1000

/-- The whole microseconds from the start of the epoch to a moment, toward the epoch. -/
def microsSinceEpoch (t : DateTime) : Int :=
  ((t.date.dayNumber - epochDay) * 86400000000000 + t.time.seconds * 1000000000 +
    t.time.nanos).tdiv 1000

namespace Parameter

/-- An integer for a parameter of some type: only the two narrow types shorten it, and by its
lowest bits. -/
def ofInt (n : Int64) : ColumnType → Parameter
  | .int2 => int16 n.toInt16
  | .int4 => int32 n.toInt32
  | _ => int64 n

/-- The parameter of a value when the type is not known. Decimals go as their text, arrays and
mappings as JSON documents. -/
def ofValue (v : Value) : Parameter :=
  match v with
  | .null => null
  | .bool b => bool b
  | .int16 n => int16 n
  | .int32 n => int32 n
  | .int64 n => int64 n
  | .float32 x => float32 x
  | .float64 x => float64 x
  | .decimal s => string s
  | .string s => string s
  | .bytes bs => bytes bs
  | .uuid u => uuid u
  | .date d => date d
  | .time t => time t
  | .dateTime t => dateTime t
  | .instant t => instant t
  | .json doc => json doc
  | .array _ | .map _ => json v.toJson

/-- The parameter of a text for a JSON parameter: the document that it is, or else the text. -/
def ofJsonText (s : String) : Parameter :=
  match Json.read? s with
  | some doc => json doc
  | none => string s

/-- The parameter of a value for a parameter of some type. -/
def ofValueFor (type : ColumnType) (v : Value) : Parameter :=
  match v with
  | .int16 n => ofInt n.toInt64 type
  | .int32 n => ofInt n.toInt64 type
  | .int64 n => ofInt n type
  | .float32 x => if type = .float8 then float64 x.widen else float32 x
  | .float64 x => if type = .float4 then float32 (.narrow x) else float64 x
  | .string s => if type = .json ∨ type = .jsonb then ofJsonText s else string s
  | _ => ofValue v

/-- The parameters of values; those beyond the statement's types are bound by value alone. -/
def bind : List ColumnType → List Value → List Parameter
  | type :: types, v :: vs => ofValueFor type v :: bind types vs
  | [], vs => vs.map ofValue
  | _, [] => []

/-- The value that a parameter holds. -/
def toValue : Parameter → Value
  | null => .null
  | bool b => .bool b
  | int16 n => .int16 n
  | int32 n => .int32 n
  | int64 n => .int64 n
  | float32 x => .float32 x
  | float64 x => .float64 x
  | string s => .string s
  | bytes bs => .bytes bs
  | uuid u => .uuid u
  | json doc => .json doc
  | instant t => .instant t
  | date d => .date d
  | time t => .time t
  | dateTime t => .dateTime t

/-- The binary form of a parameter that is sent under some type, nothing for null. A document
has a version byte in front under the binary JSON type; no other form looks at the type. -/
def encode (type : Option ColumnType) : Parameter → Option (List UInt8)
  | null => none
  | bool b => some [if b then 1 else 0]
  | int16 n => some (BigEndian.encodeInt 2 n.toInt)
  | int32 n => some (BigEndian.encodeInt 4 n.toInt)
  | int64 n => some (BigEndian.encodeInt 8 n.toInt)
  | float32 x => some (BigEndian.encode 4 x.bits.toNat)
  | float64 x => some (BigEndian.encode 8 x.bits.toNat)
  | string s => some s.toUTF8.toList
  | bytes bs => some bs
  | uuid u => some u.bytes
  | json doc => some ((if type = some .jsonb then [1] else []) ++ doc.text.toUTF8.toList)
  | instant t => some (BigEndian.encodeInt 8 (microsSinceEpoch t))
  | date d => some (BigEndian.encodeInt 4 (d.dayNumber - epochDay))
  | time t => some (BigEndian.encodeInt 8 (microsOfDay t))
  | dateTime t => some (BigEndian.encodeInt 8 (microsSinceEpoch t))

end Parameter

end BulkValues.Postgres
