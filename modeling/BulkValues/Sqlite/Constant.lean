/-
# Constants of SQL

What a literal stands for in SQLite: digits are an integer as long as they fit into 64 bits
and a float beyond, a string is its text without the quotes, and a byte string its bytes.
-/
import BulkValues.Sqlite.Lexeme
import BulkValues.Sqlite.Stored

namespace BulkValues.Sqlite

open BulkValues.Number BulkValues.Text

-- The power is the core library's, also where another one is in scope.
attribute [local instance (high)] instPowNat

namespace Stored

/-- An integer, or the nearest float if it does not fit into 64 bits. -/
def ofInt (n : Int) : Stored :=
  if -(2 ^ (63 : Nat)) ≤ n ∧ n < 2 ^ (63 : Nat) then .integer (Int64.ofInt n)
  else .real (.ofInt n)

/-- The float nearest to digits with an optional point and exponent. -/
def ofFloatText (negative : Bool) (cs : List Char) : Stored :=
  let x := (readUnsignedFloat? cs).getD .zero
  .real (if negative then x.neg else x)

/-- What a lexeme stands for on its own, after an even or odd number of minus signs. -/
def ofLexeme? (negative : Bool) (l : Lexeme) : Option Stored :=
  match l.kind with
  | .integer =>
    let n : Int := digitsValue l.text
    let n := if negative then -n else n
    if -(2 ^ (63 : Nat)) ≤ n ∧ n < 2 ^ (63 : Nat) then some (.ofInt n)
    else some (ofFloatText negative l.text)
  | .real => some (ofFloatText negative l.text)
  | .text => if negative then none else
    some (.text (String.ofList (Lexeme.halveQuotes (l.text.drop 1).dropLast)))
  | .blob => if negative then none else
    (readHex? (l.text.drop 2).dropLast).map .blob
  | .word => if !negative && l.isKeyword "NULL" then some .null else none
  | _ => none

end Stored

end BulkValues.Sqlite
