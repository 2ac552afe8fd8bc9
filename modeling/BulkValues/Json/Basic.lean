/-
# JSON documents

A document is a value of one inductive type.  A number is a natural number, a negative
integer, or a float, as its text says; the fields of an object are a list.  In a document
proper the fields of every object are sorted by name, with no name twice: `normalize` makes
it so, the last of several equal names giving the value.
-/
import BulkValues.Number.Binary

namespace BulkValues

open BulkValues.Number

/-- A JSON number. -/
inductive JsonNumber where
  /-- A whole number that is not negative, below `2 ^ 64`. -/
  | natural (n : Nat)
  /-- A negative integer, from `-2 ^ 63` up. -/
  | negative (n : Int)
  /-- Any other number. -/
  | float (x : Binary64)
deriving DecidableEq

/-- A JSON document. -/
inductive Json where
  | null
  | bool (b : Bool)
  | number (n : JsonNumber)
  | string (s : String)
  | array (items : List Json)
  | object (fields : List (String × Json))

namespace JsonNumber

/-- The number of an integer, if it is in the range of whole numbers. -/
def ofInt (n : Int) : JsonNumber := if 0 ≤ n then natural n.toNat else negative n

/-- Equality of numbers: whole numbers by value, floats numerically, and never one with the
other. -/
def same : JsonNumber → JsonNumber → Bool
  | natural m, natural n => m == n
  | negative m, negative n => m == n
  | float x, float y => x.same y
  | _, _ => false

end JsonNumber

namespace Json

/-- The number of an integer. -/
def ofInt (n : Int) : Json := number (.ofInt n)

/-- A finite float, or null for what JSON cannot write. -/
def ofFloat (x : Binary64) : Json := if x.isFinite then number (.float x) else null

/-- Put a field among sorted fields; a field of that name is replaced. -/
def insertField (name : String) (value : Json) : List (String × Json) → List (String × Json)
  | [] => [(name, value)]
  | (n, v) :: rest =>
    if name < n then (name, value) :: (n, v) :: rest
    else if name = n then (name, value) :: rest
    else (n, v) :: insertField name value rest

/-- Fields sorted by name; of several with one name the last stays. -/
def sortFields (fields : List (String × Json)) : List (String × Json) :=
  fields.foldl (fun sorted f => insertField f.1 f.2 sorted) []

mutual

/-- The document with the fields of every object sorted and no name twice. -/
def normalize : Json → Json
  | array items => array (normalizeItems items)
  | object fields => object (sortFields (normalizeFields fields))
  | doc => doc

/-- `normalize` for every item. -/
def normalizeItems : List Json → List Json
  | [] => []
  | item :: rest => normalize item :: normalizeItems rest

/-- `normalize` for the value of every field. -/
def normalizeFields : List (String × Json) → List (String × Json)
  | [] => []
  | (name, value) :: rest => (name, normalize value) :: normalizeFields rest

end

mutual

/-- Equality of documents, with numbers compared by `JsonNumber.same`. -/
def same : Json → Json → Bool
  | null, null => true
  | bool a, bool b => a == b
  | number m, number n => m.same n
  | string s, string t => s == t
  | array xs, array ys => sameItems xs ys
  | object fs, object gs => sameFields fs gs
  | _, _ => false

/-- `same` item by item. -/
def sameItems : List Json → List Json → Bool
  | [], [] => true
  | x :: xs, y :: ys => same x y && sameItems xs ys
  | _, _ => false

/-- `same` field by field. -/
def sameFields : List (String × Json) → List (String × Json) → Bool
  | [], [] => true
  | (m, x) :: fs, (n, y) :: gs => m == n && same x y && sameFields fs gs
  | _, _ => false

end

end Json

end BulkValues
