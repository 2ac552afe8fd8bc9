/-
# Rows as a JSON document

The rows of a batch are given as one JSON array of arrays and objects.
-/
import BulkValues.Record.Basic

namespace BulkValues

/-- Why a text gives no rows. -/
inductive RowsError where
  /-- The text is no JSON document. -/
  | notJson
  /-- The document is no array. -/
  | notAnArray
  /-- An item, counted from one, is no record. -/
  | badRow (number : Nat) (cause : Error)
deriving DecidableEq

namespace RowsError

/-- What is shown for the failure. -/
def message : RowsError → String
  | notJson => "rows are not valid JSON"
  | notAnArray => "rows must be a JSON array of arrays or objects"
  | badRow n _ => "row " ++ toString n ++ " is invalid"

/-- The error behind the failure. -/
def cause? : RowsError → Option Error
  | badRow _ e => some e
  | _ => none

end RowsError

namespace Record

/-- The records of items, the first of which has this number. -/
def ofItems (number : Nat) : List Json → Except RowsError (List Record)
  | [] => .ok []
  | item :: rest =>
    match ofJson item with
    | .error e => .error (.badRow number e)
    | .ok r => (ofItems (number + 1) rest).map (r :: ·)

/-- The records of a document. -/
def ofDocument : Json → Except RowsError (List Record)
  | .array items => ofItems 1 items
  | _ => .error .notAnArray

/-- The records of the text of a document. -/
def readAll (text : String) : Except RowsError (List Record) :=
  match Json.read? text with
  | none => .error .notJson
  | some doc => ofDocument doc

end Record

end BulkValues
