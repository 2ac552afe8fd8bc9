/-
# Objects with known fields

A record with a fixed list of fields is read from an object, in which other fields are ignored
and no known field may stand twice, or from an array that has the values in the order of the
fields.
-/
import BulkValues.Json.Basic

namespace BulkValues.Json

/-- The values of the known fields `names`, one for each; a field may be missing in an object.
The document must be as it was written, with repeated fields. -/
def known? (names : List String) : Json → Option (List (Option Json))
  | object fields =>
    names.mapM fun name =>
      match fields.filter fun f => f.1 == name with
      | [] => some none
      | [f] => some (some f.2)
      | _ => none
  | array items => if items.length = names.length then some (items.map some) else none
  | _ => none

/-- A natural number, which must be present. -/
def natural? : Option Json → Option Nat
  | some (number (.natural n)) => some n
  | _ => none

/-- A natural number or null; a missing field counts as null. -/
def optionalNatural? : Option Json → Option (Option Nat)
  | none => some none
  | some null => some none
  | some (number (.natural n)) => some (some n)
  | _ => none

/-- A string or null; a missing field counts as null. -/
def optionalString? : Option Json → Option (Option String)
  | none => some none
  | some null => some none
  | some (string s) => some (some s)
  | _ => none

/-- The number of a natural number. -/
def ofNat (n : Nat) : Json := number (.natural n)

end BulkValues.Json
