/-
# Cells of a row

A cell arrives as bytes in the binary form of its column's type, or as null.  `decode?` reads
the bytes of a cell; a cell that is not in the form of its type counts as null.  Exact numbers of
one weight break the run off.
-/
import BulkValues.Postgres.Numeric
import BulkValues.Postgres.Parameter

namespace BulkValues.Postgres

open BulkValues.Number BulkValues.Calendar

namespace Cell

/-- The text of bytes, if they are well-formed. -/
def text? (raw : List UInt8) : Option String := String.fromUTF8? ⟨raw.toArray⟩

/-- The document of bytes. -/
def json? (raw : List UInt8) : Option Value := do
  pure (.json (← Json.read? (← text? raw)))

/-- The moment a number of microseconds after the start of the epoch. -/
def moment? (raw : List UInt8) : Option DateTime := do
  DateTime.ofMicros? epochDay (← BigEndian.decodeInt? 8 raw)

/-- The time a number of microseconds after midnight, around the clock. -/
def time? (raw : List UInt8) : Option TimeOfDay := do
  let micros := ((← BigEndian.decodeInt? 8 raw) % 86400000000).toNat
  TimeOfDay.ofSeconds? (micros / 1000000) (micros % 1000000 * 1000)

/-- The day a number of days after the start of the epoch. -/
def date? (raw : List UInt8) : Option Date := do
  Date.ofDayNumber? (epochDay + (← BigEndian.decodeInt? 4 raw))

/-- The value of the bytes of a scalar. -/
def scalar? (raw : List UInt8) : ColumnType → Option Value
  | .bool =>
    match raw with
    | [b] => some (.bool (b != 0))
    | _ => none
  | .int2 => (BigEndian.decodeInt? 2 raw).map fun n => .int16 (.ofInt n)
  | .int4 => (BigEndian.decodeInt? 4 raw).map fun n => .int32 (.ofInt n)
  | .int8 => (BigEndian.decodeInt? 8 raw).map fun n => .int64 (.ofInt n)
  | .float4 =>
    if raw.length = 4 then some (.float32 ⟨.ofNat (BigEndian.decode raw)⟩) else none
  | .float8 =>
    if raw.length = 8 then some (.float64 ⟨.ofNat (BigEndian.decode raw)⟩) else none
  | .numeric => (Numeric.readText raw).toOption.map .decimal
  | .bytea => some (.bytes raw)
  | .uuid => (Uuid.ofBytes? raw).map .uuid
  | .json => json? raw
  | .jsonb =>
    match raw with
    | 1 :: rest => json? rest
    | _ => none
  | .date => (date? raw).map .date
  | .time => (time? raw).map .time
  | .timestamp => (moment? raw).map .dateTime
  | .timestamptz => (moment? raw).map .instant
  | .text _ | .other _ | .arrayOf _ => (text? raw).map .string

/-- The values of as many items as are announced, each with its length in front. An item that
is null, as one that is not in the form of its type, spoils the array. -/
def items? (item : ColumnType) : Nat → List UInt8 → Option (List Value)
  | 0, rest => if rest.isEmpty then some [] else none
  | n + 1, raw => do
    let (length, rest) ← BigEndian.takeInt? 4 raw
    if length < 0 ∨ rest.length < length.toNat then none
    else
      let v ← scalar? (rest.take length.toNat) item
      pure (v :: (← items? item n (rest.drop length.toNat)))

/-- The values of an array: the number of its dimensions, whether it has nulls, the type of its
items, the length and first index of each dimension, and the items. More than one dimension
cannot be taken. -/
def array? (item : ColumnType) (raw : List UInt8) : Option Value := do
  let (dimensions, rest) ← BigEndian.takeInt? 4 raw
  let (_hasNulls, rest) ← BigEndian.takeInt? 4 rest
  let (_itemType, rest) ← BigEndian.takeInt? 4 rest
  if dimensions = 0 then pure (.array (← items? item 0 rest))
  else if dimensions = 1 then
    let (length, rest) ← BigEndian.takeInt? 4 rest
    let (_first, rest) ← BigEndian.takeInt? 4 rest
    if length < 0 then none else pure (.array (← items? item length.toNat rest))
  else none

/-- The value of the bytes of a cell. -/
def decode? : ColumnType → List UInt8 → Option Value
  | .arrayOf item, raw => array? item raw
  | type, raw => scalar? raw type

/-- Whether reading a cell breaks the run off: an exact number of the least weight. -/
def breaksOff (type : ColumnType) (raw : List UInt8) : Bool :=
  type == .numeric && Numeric.read raw matches .error .weightOutOfRange

/-- The value of a cell, unless the run breaks off. A cell that is not in the form of its
column's type is null, as if the server had sent none. -/
def value (type : ColumnType) (cell : Option (List UInt8)) : Option Value :=
  if cell.any (breaksOff type) then none else some ((cell.bind (decode? type)).getD .null)

end Cell

end BulkValues.Postgres
