/-
# Reports of a server

A server reports a failure with a code, a message and, if it likes, a detail, a hint and the
name of a column.  The most common codes are told in words.
-/
import BulkValues.Text.Blank

namespace BulkValues.Postgres

open BulkValues.Text

/-- A failure as a server reports it. -/
structure Report where
  /-- Five characters for the kind of failure. -/
  code : String
  /-- What happened. -/
  message : String
  /-- More about it. -/
  detail : Option String := none
  /-- What to do about it. -/
  hint : Option String := none
  /-- The column it is about. -/
  column : Option String := none
deriving DecidableEq, Repr

namespace Report

/-- A remark in brackets, unless it is blank. -/
def remark (label : String) : Option String → String
  | some text => if allBlank text then "" else " (" ++ label ++ ": " ++ text ++ ")"
  | none => ""

/-- The message with all that is said besides. -/
def fullMessage (r : Report) : String :=
  r.message ++ remark "detail" r.detail ++ remark "hint" r.hint ++ remark "column" r.column

/-- The words for a code. -/
def wordsOf? (code : String) : Option String :=
  if code = "23505" then some "duplicate value violates unique constraint"
  else if code = "23503" then some "foreign key violation"
  else if code = "23502" then some "null value violates not-null constraint"
  else if code = "22007" then some "invalid datetime format"
  else if code = "22P02" then some "invalid input syntax"
  else if code = "42601" then some "syntax error"
  else none

/-- A report as it is shown. -/
def text (r : Report) : String :=
  match wordsOf? r.code with
  | some words => words ++ ": " ++ r.fullMessage
  | none => r.fullMessage ++ " (code: " ++ r.code ++ ")"

end Report

end BulkValues.Postgres
