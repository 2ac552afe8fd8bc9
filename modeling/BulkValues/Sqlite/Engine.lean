/-
# Engines

An engine prepares the text of a statement and then runs it on what it stores.  Preparing and
running may be refused, each with its own kind of text.  A prepared statement is a function:
either it is refused and nothing has happened, or it gives what is stored afterwards, the rows
that it returns and how many it changed.  The engine remembers that number only of statements that
are there to change rows; one that only reads changes none and leaves the number of an earlier one.
-/
import BulkValues.Row
import BulkValues.Sqlite.Stored

namespace BulkValues.Sqlite

/-- Why the engine refuses a statement. -/
inductive Refusal where
  /-- A failure with its kind and number. -/
  | coded (text kind : String) (number : Nat)
  /-- A fault at a byte of the statement. -/
  | located (text sql : String) (offset : Nat)
  /-- Too few or too many parameters. -/
  | parameters (given needed : Nat)
deriving DecidableEq, Repr

namespace Refusal

/-- A refusal as it is shown. -/
def text : Refusal → String
  | coded text kind number => text ++ " (" ++ kind ++ ", code " ++ toString number ++ ")"
  | located text sql offset => text ++ " in " ++ sql ++ " at offset " ++ toString offset
  | parameters given needed =>
    "Wrong number of parameters passed to query. Got " ++ toString given ++ ", needed " ++
      toString needed

/-- A failure without a number of its own. -/
def plain (text : String) : Refusal := .coded text "Unknown" 1

end Refusal

/-- What a statement did. -/
structure Effect (τ : Type) where
  /-- What is stored afterwards. -/
  stored : τ
  /-- The rows that the statement returns. -/
  rows : List (List Stored)
  /-- How many rows it changed. -/
  changed : Nat

/-- A statement that is ready to run. -/
structure Prepared (τ : Type) where
  /-- The names and types of the columns that it returns. -/
  columns : List (String × String)
  /-- The number of its parameters. -/
  parameters : Nat
  /-- It is there to change rows: its number of changed rows is remembered. -/
  changesRows : Bool
  /-- Run it with as many parameters. -/
  run : List Stored → τ → Except Refusal (Effect τ)
  /-- Otherwise it changes none. -/
  changed_eq_zero : changesRows = false → ∀ given stored effect,
    run given stored = .ok effect → effect.changed = 0

/-- An engine: how the text of a statement is prepared. -/
structure Engine (τ : Type) where
  /-- Prepare a statement for what is stored. -/
  prepare : String → τ → Except Refusal (Prepared τ)

end BulkValues.Sqlite
