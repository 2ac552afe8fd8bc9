/-
# Batches on a SQLite connection

The batch runs inside a transaction of its own, through the handle that it is given when the
transaction begins.
-/
import BulkValues.Batch.Execute
import BulkValues.Sqlite.Session

namespace BulkValues.Sqlite

/-- One run of a batch: the connection, the handle of the transaction and the statement that
was kept. -/
structure BatchRun (τ : Type) where
  /-- The connection. -/
  session : Session τ
  /-- The handle, while the transaction is open. -/
  handle : Option Nat
  /-- The text of the statement that failed, if it was kept. -/
  kept : Option String

namespace BatchRun

variable {τ : Type}

/-- A run that has not begun. -/
def fresh (s : Session τ) : BatchRun τ := ⟨s, none, none⟩

/-- Do something to the connection. -/
def act (e : Engine τ) (event : Event) (r : BatchRun τ) : Answer × BatchRun τ :=
  let (answer, s) := r.session.step e event
  (answer, { r with session := s })

/-- Whether an answer is a success. -/
def outcome : Answer → Except Error Unit
  | .failed reason => .error reason
  | .absent => .error (.finished "finished")
  | _ => .ok ()

/-- Do something through the handle. -/
def through (e : Engine τ) (event : Nat → Event) (r : BatchRun τ) : Answer × BatchRun τ :=
  match r.handle with
  | some h => r.act e (event h)
  | none => (.absent, r)

/-- The connection as a database for batches. `keeps` says whether there is a place for the
statement that failed. -/
def database (e : Engine τ) (keeps : Bool) : Database (BatchRun τ) where
  literal := Dialect.literal .sqlite
  start r :=
    match r.act e .start with
    | (.started h, r) => (.ok (), { r with handle := some h })
    | (answer, r) => (outcome answer, r)
  run fetch sql r :=
    match r.through e (Event.inside · fetch sql []) with
    | (.ran result, r) => (.ok (if fetch then result.rows else []), r)
    | (answer, r) => ((outcome answer).map fun _ => [], r)
  commit r :=
    let (answer, r) := r.through e .commit
    (outcome answer, { r with handle := none })
  rollback r :=
    let (answer, r) := r.through e .rollback
    (outcome answer, { r with handle := none })
  keep sql r := if keeps then { r with kept := some sql } else r

end BatchRun

end BulkValues.Sqlite
