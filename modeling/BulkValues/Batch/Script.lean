/-
# A database that follows a script

The script says which call fails and how, and which rows come back for the statement of which
page.  Every call is logged in order, also one that fails.
-/
import BulkValues.Batch.Execute

namespace BulkValues.Batch

/-- A call on a database. -/
inductive Call where
  | start
  /-- A statement whose rows are not wanted. -/
  | execute (sql : String)
  /-- A statement whose rows are wanted. -/
  | query (sql : String)
  | commit
  | rollback
deriving DecidableEq, Repr

/-- Where the text of a failed statement goes. -/
inductive Sink where
  /-- Nowhere. -/
  | none
  /-- Into a file. -/
  | file
  /-- Into a file that cannot be written. -/
  | unwritable
deriving DecidableEq, Repr

/-- What a scripted database answers. -/
structure Script where
  /-- How it writes literals. -/
  dialect : Dialect
  /-- How starting a transaction fails. -/
  start : Option Error
  /-- The number of the statement that fails, from zero, and how. -/
  statement : Option (Nat × Error)
  /-- How committing fails. -/
  commit : Option Error
  /-- How rolling back fails. -/
  rollback : Option Error
  /-- The rows that come back, statement by statement. -/
  replies : List (List Row)
  /-- The place for failed statements. -/
  sink : Sink

/-- What happened to a scripted database. -/
structure Log where
  /-- The calls so far. -/
  calls : List Call
  /-- How many statements were sent. -/
  sent : Nat
  /-- The text in the file. -/
  kept : Option String
deriving DecidableEq, Repr

/-- Nothing has happened. -/
def Log.empty : Log := ⟨[], 0, none⟩

/-- The log with one more call. -/
def Log.add (l : Log) (c : Call) : Log := { l with calls := l.calls ++ [c] }

/-- An answer that fails if the script says so. -/
def outcome : Option Error → Except Error Unit
  | some e => .error e
  | none => .ok ()

namespace Script

/-- The answer to statement number `n`; rows only come back if they are wanted. -/
def answer (s : Script) (fetch : Bool) (n : Nat) : Except Error (List Row) :=
  match s.statement with
  | some (k, e) =>
    if n = k then .error e else .ok (if fetch then s.replies.getD n [] else [])
  | none => .ok (if fetch then s.replies.getD n [] else [])

/-- The database that follows a script. -/
def database (s : Script) : Database Log where
  literal := s.dialect.literal
  start l := (outcome s.start, l.add .start)
  run fetch sql l :=
    (s.answer fetch l.sent,
      { l.add (if fetch then .query sql else .execute sql) with sent := l.sent + 1 })
  commit l := (outcome s.commit, l.add .commit)
  rollback l := (outcome s.rollback, l.add .rollback)
  keep sql l := if s.sink = .file then { l with kept := some sql } else l

end Script

end BulkValues.Batch
