/-
# Values as tagged JSON

The stored form of a value: a JSON document that names the type of the value beside its
content, so that reading gives back the same value of the same type.  Floats that JSON cannot
write are stored as null and are the one thing that does not come back.
-/
import BulkValues.Json.Printer
import BulkValues.Json.Reader
import BulkValues.Value.Json

namespace BulkValues

open BulkValues.Number BulkValues.Calendar

-- The power is the core library's, also where another one is in scope.
attribute [local instance (high)] instPowNat

namespace Value

/-- A 32-bit float in the stored form. -/
def float32Text (x : Binary32) : String :=
  if x.isFinite then Style.json32.render x.isNegative x.magnitude else "null"

/-- A 64-bit float in the stored form. -/
def float64Text (x : Binary64) : String :=
  if x.isFinite then Json.floatText x else "null"

/-- The bytes as a list of numbers. -/
def bytesText (bs : List UInt8) : String :=
  "[" ++ ",".intercalate (bs.map fun b => toString b.toNat) ++ "]"

/-- Content behind the name of its type. -/
def tag (name content : String) : String :=
  "\x7b" ++ Json.quote name ++ ":" ++ content ++ "\x7d"

mutual

/-- The stored form of a value. -/
def tagged : Value → String
  | null => Json.quote "Null"
  | bool b => tag "Bool" (if b then "true" else "false")
  | int16 n => tag "Int16" (toString n.toInt)
  | int32 n => tag "Int32" (toString n.toInt)
  | int64 n => tag "Int64" (toString n.toInt)
  | float32 x => tag "Float32" (float32Text x)
  | float64 x => tag "Float64" (float64Text x)
  | decimal text => tag "Decimal" (Json.quote text)
  | string s => tag "String" (Json.quote s)
  | bytes bs => tag "Bytes" (bytesText bs)
  | uuid u => tag "Uuid" (Json.quote u.text)
  | date d => tag "Date" (Json.quote d.text)
  | time t => tag "Time" (Json.quote t.text)
  | dateTime t => tag "DateTime" (Json.quote t.isoText)
  | instant t => tag "DateTimeUtc" (Json.quote (t.isoText ++ "Z"))
  | json doc => tag "Json" doc.text
  | array items => tag "Array" ("[" ++ taggedItems items ++ "]")
  | map fields => tag "Map" ("\x7b" ++ taggedFields fields ++ "\x7d")

/-- Stored forms with commas between them. -/
def taggedItems : List Value → String
  | [] => ""
  | [item] => tagged item
  | item :: rest => tagged item ++ "," ++ taggedItems rest

/-- Names and stored forms with commas between them. -/
def taggedFields : List (String × Value) → String
  | [] => ""
  | [(name, item)] => Json.quote name ++ ":" ++ tagged item
  | (name, item) :: rest =>
    Json.quote name ++ ":" ++ tagged item ++ "," ++ taggedFields rest

end

/-! ## Reading -/

/-- The integer of a document within the bounds of a signed type. -/
def untagInt (bound : Nat) : Json → Option Int
  | .number (.natural n) => if n < bound then some n else none
  | .number (.negative n) => if n.natAbs ≤ bound then some n else none
  | _ => none

/-- The 64-bit float of a document. -/
def untagFloat64 : Json → Option Binary64
  | .number (.natural n) => some (.ofInt n)
  | .number (.negative n) => some (.ofInt n)
  | .number (.float x) => some x
  | _ => none

/-- The 32-bit float of a document. -/
def untagFloat32 : Json → Option Binary32
  | .number (.natural n) => some (.ofInt n)
  | .number (.negative n) => some (.ofInt n)
  | .number (.float x) => some (.narrow x)
  | _ => none

/-- The text of a document that is a string. -/
def untagString : Json → Option String
  | .string s => some s
  | _ => none

/-- The bytes of a document that is a list of small numbers. -/
def untagBytes : List Json → Option (List UInt8)
  | [] => some []
  | .number (.natural n) :: rest =>
    if n < 256 then (untagBytes rest).map (UInt8.ofNat n :: ·) else none
  | _ => none

/-- The scalar of a given type with this content. -/
def untagScalar (type : String) (content : Json) : Option Value :=
  match type with
  | "Null" => if content.same .null then some null else none
  | "Bool" => match content with
    | .bool b => some (bool b)
    | _ => none
  | "Int16" => (untagInt (2 ^ (15 : Nat)) content).map fun n => int16 (Int16.ofInt n)
  | "Int32" => (untagInt (2 ^ (31 : Nat)) content).map fun n => int32 (Int32.ofInt n)
  | "Int64" => (untagInt (2 ^ (63 : Nat)) content).map fun n => int64 (Int64.ofInt n)
  | "Float32" => (untagFloat32 content).map float32
  | "Float64" => (untagFloat64 content).map float64
  | "Decimal" => (untagString content).map decimal
  | "String" => (untagString content).map string
  | "Bytes" => match content with
    | .array items => (untagBytes items).map bytes
    | _ => none
  | "Uuid" => ((untagString content).bind Uuid.read?).map uuid
  | "Date" => ((untagString content).bind Date.read?).map date
  | "Time" => ((untagString content).bind TimeOfDay.read?).map time
  | "DateTime" => ((untagString content).bind DateTime.read?).map dateTime
  | "DateTimeUtc" => ((untagString content).bind DateTime.readInstant?).map instant
  | "Json" => some (json content.normalize)
  | _ => none

mutual

/-- The value of a stored form as it is written. -/
def untag : Json → Option Value
  | .string "Null" => some null
  | .object [("Array", .array items)] => (untagItems items).map array
  | .object [("Map", .object fields)] => (untagFields fields).map fun fs => map (orderByArrival fs)
  | .object [(type, content)] => untagScalar type content
  | _ => none

/-- The values of a list of stored forms. -/
def untagItems : List Json → Option (List Value)
  | [] => some []
  | item :: rest => do
    let v ← untag item
    let vs ← untagItems rest
    pure (v :: vs)

/-- The values of named stored forms. -/
def untagFields : List (String × Json) → Option (List (String × Value))
  | [] => some []
  | (name, item) :: rest => do
    let v ← untag item
    let vs ← untagFields rest
    pure ((name, v) :: vs)

end

/-- The value of the text of a stored form. -/
def readTagged? (s : String) : Option Value := (Json.readVerbatim? s).bind untag

end Value

end BulkValues
