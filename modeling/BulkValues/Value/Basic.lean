/-
# Values

A value is one cell of a database row: one of the scalar types that drivers exchange, a JSON
document, an array of values, or a mapping from names to values that has not been given a
representation yet.
-/
import BulkValues.Calendar.Basic
import BulkValues.Json.Basic
import BulkValues.Number.Reader
import BulkValues.Uuid

namespace BulkValues

open BulkValues.Number BulkValues.Calendar

-- The power is the core library's, also where another one is in scope.
attribute [local instance (high)] instPowNat

/-- One value of a row. -/
inductive Value where
  | null
  | bool (b : Bool)
  | int16 (n : Int16)
  | int32 (n : Int32)
  | int64 (n : Int64)
  | float32 (x : Binary32)
  | float64 (x : Binary64)
  /-- A decimal number as its text, which is not checked here. -/
  | decimal (text : String)
  | string (s : String)
  | bytes (bs : List UInt8)
  | uuid (u : Uuid)
  | date (d : Date)
  | time (t : TimeOfDay)
  /-- A date and time without time zone. -/
  | dateTime (t : DateTime)
  /-- A moment in universal time. -/
  | instant (t : DateTime)
  | json (doc : Json)
  | array (items : List Value)
  /-- Fields in the order they were given, each name once. -/
  | map (fields : List (String × Value))

instance : Inhabited Value := ⟨.null⟩

/-- Put a field among fields in order of arrival: a name that is present keeps its place and
takes the new value. -/
def insertByArrival {α : Type} (name : String) (value : α) :
    List (String × α) → List (String × α)
  | [] => [(name, value)]
  | (n, v) :: rest =>
    if n = name then (n, value) :: rest else (n, v) :: insertByArrival name value rest

/-- Fields in order of arrival, each name once with its last value. -/
def orderByArrival {α : Type} (fields : List (String × α)) : List (String × α) :=
  fields.foldl (fun kept f => insertByArrival f.1 f.2 kept) []

namespace Value

/-- Whether the value is null. -/
def isNull : Value → Bool
  | null => true
  | _ => false

/-- Whether the value is a mapping. -/
def isMap : Value → Bool
  | map _ => true
  | _ => false

/-- The text of a string. -/
def toString? : Value → Option String
  | string s => some s
  | _ => none

/-- The boolean of a boolean. -/
def toBool? : Value → Option Bool
  | bool b => some b
  | _ => none

/-- The integer of an integer or of a string that is the text of one. -/
def toInt? : Value → Option Int
  | int16 n => some n.toInt
  | int32 n => some n.toInt
  | int64 n => some n.toInt
  | string s => readInt? (2 ^ (63 : Nat)) s.toList
  | _ => none

/-- The number of a float, an integer or a string that is the text of one. -/
def toFloat? : Value → Option Binary64
  | float32 x => some x.widen
  | float64 x => some x
  | int16 n => some (.ofInt n.toInt)
  | int32 n => some (.ofInt n.toInt)
  | int64 n => some (.ofInt n.toInt)
  | string s => readFloat? s
  | _ => none

mutual

/-- Equality of values of one type, with floats compared as numbers: the two zeros are equal
and a NaN is equal to nothing. -/
def same : Value → Value → Bool
  | null, null => true
  | bool a, bool b => a == b
  | int16 m, int16 n => m == n
  | int32 m, int32 n => m == n
  | int64 m, int64 n => m == n
  | float32 x, float32 y => x.same y
  | float64 x, float64 y => x.same y
  | decimal s, decimal t => s == t
  | string s, string t => s == t
  | bytes a, bytes b => a == b
  | uuid a, uuid b => a == b
  | date a, date b => a == b
  | time a, time b => a == b
  | dateTime a, dateTime b => a == b
  | instant a, instant b => a == b
  | json a, json b => a.same b
  | array xs, array ys => sameItems xs ys
  | map fs, map gs => sameFields fs gs
  | _, _ => false

/-- `same` item by item. -/
def sameItems : List Value → List Value → Bool
  | [], [] => true
  | x :: xs, y :: ys => same x y && sameItems xs ys
  | _, _ => false

/-- `same` field by field. -/
def sameFields : List (String × Value) → List (String × Value) → Bool
  | [], [] => true
  | (m, x) :: fs, (n, y) :: gs => m == n && same x y && sameFields fs gs
  | _, _ => false

end

end Value

end BulkValues
