/-
# Values and JSON documents

A document becomes a value without losing anything: whole numbers beyond 64 signed bits
become decimals, objects become mappings.  Every value has a document, in which numbers stay
numbers where JSON has them and everything else becomes text.
-/
import BulkValues.Calendar.Text
import BulkValues.Value.Basic

namespace BulkValues

open BulkValues.Number BulkValues.Calendar

-- The power is the core library's, also where another one is in scope.
attribute [local instance (high)] instPowNat

namespace Value

/-- The value of a JSON number. -/
def ofJsonNumber : JsonNumber → Value
  | .natural n => if n < 2 ^ (63 : Nat) then int64 (Int64.ofInt n) else decimal (toString n)
  | .negative n => int64 (Int64.ofInt n)
  | .float x => float64 x

mutual

/-- The value of a document. -/
def ofJson : Json → Value
  | .null => null
  | .bool b => bool b
  | .number n => ofJsonNumber n
  | .string s => string s
  | .array items => array (ofJsonItems items)
  | .object fields => map (ofJsonFields fields)

/-- The values of documents. -/
def ofJsonItems : List Json → List Value
  | [] => []
  | item :: rest => ofJson item :: ofJsonItems rest

/-- The values of fields, under their names. -/
def ofJsonFields : List (String × Json) → List (String × Value)
  | [] => []
  | (name, item) :: rest => (name, ofJson item) :: ofJsonFields rest

end

/-- The text of a moment in a document or a literal: date, the letter T, time and the offset
of universal time. -/
def instantText (t : DateTime) : String := t.isoText ++ "+00:00"

/-- The document of a decimal: a number when it is a whole number of 64 bits, else its text. -/
def decimalToJson (text : String) : Json :=
  match readNat? (2 ^ (64 : Nat)) text.toList with
  | some n => .number (.natural n)
  | none => .string text

mutual

/-- The document of a value. -/
def toJson : Value → Json
  | null => .null
  | bool b => .bool b
  | int16 n => .ofInt n.toInt
  | int32 n => .ofInt n.toInt
  | int64 n => .ofInt n.toInt
  | float32 x => .ofFloat x.widen
  | float64 x => .ofFloat x
  | decimal text => decimalToJson text
  | string s => .string s
  | bytes bs => .array (bs.map fun b => .number (.natural b.toNat))
  | uuid u => .string u.text
  | date d => .string d.text
  | time t => .string t.text
  | dateTime t => .string t.text
  | instant t => .string (instantText t)
  | json doc => doc
  | array items => .array (toJsonItems items)
  | map fields => .object (Json.sortFields (toJsonFields fields))

/-- The documents of values. -/
def toJsonItems : List Value → List Json
  | [] => []
  | item :: rest => toJson item :: toJsonItems rest

/-- The documents of fields, under their names. -/
def toJsonFields : List (String × Value) → List (String × Json)
  | [] => []
  | (name, item) :: rest => (name, toJson item) :: toJsonFields rest

end

end Value

end BulkValues
