/-
# Sessions of a SQLite connection

A session is what one connection shows to those who share it: what is stored, the copy that a
rollback goes back to, the handles of transactions that were not finished, and whether it was
closed.  Statements go to the same engine whether they are run directly or through a handle, so
one that is run directly while a handle is alive belongs to that handle's transaction.  Closing
stops direct statements and new transactions; a handle goes on working.

A command may be interrupted from outside, by a full disk or by the lock of another process:
`faults` says which of the coming commands are refused for such a reason.  Only a rollback is
never interrupted.  Every handle is given up in the end, also by a commit or a rollback.  If its
flags say that it was not finished it rolls back then, which undoes the transaction when a commit
is refused.
-/
import BulkValues.Error
import BulkValues.Sqlite.Engine

namespace BulkValues.Sqlite

/-- The state of a connection. -/
structure Session (τ : Type) where
  /-- What is stored, with the changes of an open transaction. -/
  stored : τ
  /-- What was stored when the open transaction began. -/
  saved : Option τ
  /-- How many rows the latest statement that changes rows has changed. -/
  changes : Nat
  /-- The connection was closed. -/
  isClosed : Bool
  /-- The handles of unfinished transactions, the latest first. -/
  alive : List Nat
  /-- How many handles were given out. -/
  given : Nat
  /-- The interruptions of the coming commands. -/
  faults : List (Option Refusal)

/-- What can be done with a connection. -/
inductive Event where
  /-- Begin a transaction. -/
  | start
  /-- Run a statement directly; with `fetch` for its rows. -/
  | direct (fetch : Bool) (sql : String) (parameters : List Value)
  /-- Run a statement through a handle. -/
  | inside (handle : Nat) (fetch : Bool) (sql : String) (parameters : List Value)
  /-- Run a statement directly without parameters and rows. -/
  | batch (sql : String)
  /-- Commit through a handle, which ends it. -/
  | commit (handle : Nat)
  /-- Roll back through a handle, which ends it. -/
  | rollback (handle : Nat)
  /-- Give a handle up. -/
  | drop (handle : Nat)
  /-- Close the connection. -/
  | close

/-- What comes of an event. -/
inductive Answer where
  /-- A transaction began and has this handle. -/
  | started (handle : Nat)
  /-- A statement was run. -/
  | ran (result : QueryResult)
  /-- Something was done. -/
  | done
  /-- Something was refused. -/
  | failed (reason : Error)
  /-- There is no such handle. -/
  | absent

/-- How a handle was finished. -/
structure Flags where
  /-- By a commit. -/
  committed : Bool
  /-- By a rollback. -/
  rolledBack : Bool

/-- The flags of a handle that is alive. -/
def Flags.unfinished : Flags := ⟨false, false⟩

namespace Session

variable {τ : Type}

/-- A connection that was just opened. -/
def opened (stored : τ) : Session τ := ⟨stored, none, 0, false, [], 0, []⟩

/-- Whether the engine is inside a transaction. -/
def inTransaction (s : Session τ) : Bool := s.saved.isSome

/-- The interruption of the next command, and the session after it. -/
def interruption (s : Session τ) : Option Refusal × Session τ :=
  match s.faults with
  | [] => (none, s)
  | f :: rest => (f, { s with faults := rest })

/-- The failure of a step of running a statement. -/
def refuse (what : String) (r : Refusal) : Error := .refused ("Failed to " ++ what) r.text

/-! ## Commands of the engine -/

/-- Begin a transaction, unless there is one. -/
def beginCommand (s : Session τ) : Except Refusal Unit × Session τ :=
  match s.interruption with
  | (some r, s) => (.error r, s)
  | (none, s) =>
    match s.saved with
    | some _ => (.error (.plain "cannot start a transaction within a transaction"), s)
    | none => (.ok (), { s with saved := some s.stored })

/-- Make the changes of the transaction permanent. -/
def commitCommand (s : Session τ) : Except Refusal Unit × Session τ :=
  match s.interruption with
  | (some r, s) => (.error r, s)
  | (none, s) =>
    match s.saved with
    | some _ => (.ok (), { s with saved := none })
    | none => (.error (.plain "cannot commit - no transaction is active"), s)

/-- Go back to what was stored when the transaction began. -/
def rollbackCommand (s : Session τ) : Except Refusal Unit × Session τ :=
  match s.saved with
  | some before => (.ok (), { s with stored := before, saved := none })
  | none => (.error (.plain "cannot rollback - no transaction is active"), s)

/-- The values of a row under the names of its columns. -/
def toRow (columns : List (String × String)) (values : List Stored) : Row :=
  ⟨columns.map (·.1), values.map Stored.toValue⟩

/-- The number of changed rows that is remembered after a statement that changed so many. -/
def remembered (p : Prepared τ) (changed : Nat) (s : Session τ) : Nat :=
  if p.changesRows then changed else s.changes

/-- Run a statement. Its number of changed rows is the latest there is, which for a statement
that only reads is that of an earlier one. -/
def statement (e : Engine τ) (fetch : Bool) (sql : String) (parameters : List Value)
    (s : Session τ) : Except Error QueryResult × Session τ :=
  let kind := if fetch then "query" else "statement"
  match e.prepare sql s.stored with
  | .error r => (.error (refuse ("prepare " ++ kind) r), s)
  | .ok p =>
    if parameters.length ≠ p.parameters then
      (.error (refuse ("execute " ++ kind) (.parameters parameters.length p.parameters)), s)
    else
      let running := if fetch then "fetch row" else "execute statement"
      match s.interruption with
      | (some r, s) => (.error (refuse running r), { s with changes := s.remembered p 0 })
      | (none, s) =>
        match p.run (parameters.map Stored.ofValue) s.stored with
        | .error r => (.error (refuse running r), { s with changes := s.remembered p 0 })
        | .ok effect =>
          let changes := s.remembered p effect.changed
          let columns := p.columns.zipIdx.map fun (c, i) => ⟨c.1, c.2, i⟩
          (.ok ⟨columns, effect.rows.map (toRow p.columns), changes⟩,
            { s with stored := effect.stored, changes := changes })

/-! ## Events -/

/-- Do something unless the connection was closed. -/
def ifOpen (act : Session τ → Answer × Session τ) (s : Session τ) : Answer × Session τ :=
  if s.isClosed then (.failed (.closedConnection "SQLite"), s) else act s

/-- Use a handle that is alive. -/
def through (handle : Nat) (act : Session τ → Answer × Session τ) (s : Session τ) :
    Answer × Session τ :=
  if handle ∈ s.alive then act s else (.absent, s)

/-- The answer to a statement. -/
def answerOf : Except Error QueryResult × Session τ → Answer × Session τ
  | (.ok result, s) => (.ran result, s)
  | (.error e, s) => (.failed e, s)

/-- The answer to a command. -/
def answerTo (what : String) : Except Refusal Unit × Session τ → Answer × Session τ
  | (.ok _, s) => (.done, s)
  | (.error r, s) => (.failed (refuse what r), s)

/-- End a handle. -/
def forget (handle : Nat) (s : Session τ) : Session τ :=
  { s with alive := s.alive.erase handle }

/-- Begin a transaction and give out its handle. -/
def start (s : Session τ) : Answer × Session τ :=
  match s.beginCommand with
  | (.ok _, s) =>
    (.started s.given, { s with alive := s.given :: s.alive, given := s.given + 1 })
  | (.error r, s) => (.failed (refuse "begin transaction" r), s)

/-- Give up a handle: it rolls back unless it was finished. -/
def giveUp (flags : Flags) (s : Session τ) : Session τ :=
  if flags.committed || flags.rolledBack then s else s.rollbackCommand.2

/-- Commit through a handle and give it up. -/
def commit (flags : Flags) (s : Session τ) : Answer × Session τ :=
  if flags.rolledBack then (.failed (.finished "rolled back"), s.giveUp flags)
  else if flags.committed then (.failed (.finished "committed"), s.giveUp flags)
  else
    match s.commitCommand with
    | (.ok _, s) => (.done, s.giveUp { flags with committed := true })
    | (.error r, s) => (.failed (refuse "commit transaction" r), s.giveUp flags)

/-- Roll back through a handle and give it up. A rollback that is refused is not tried again. -/
def rollback (flags : Flags) (s : Session τ) : Answer × Session τ :=
  if flags.committed then (.failed (.finished "committed"), s.giveUp flags)
  else if flags.rolledBack then (.done, s.giveUp flags)
  else
    let (answer, s) := answerTo "rollback transaction" s.rollbackCommand
    (answer, s.giveUp { flags with rolledBack := true })

/-- Run statements that have no parameters and whose rows are not wanted. -/
def batch (e : Engine τ) (sql : String) (s : Session τ) : Answer × Session τ :=
  match e.prepare sql s.stored with
  | .error r => (.failed (refuse "execute batch" r), s)
  | .ok p =>
    match s.interruption with
    | (some r, s) =>
      (.failed (refuse "execute batch" r), { s with changes := s.remembered p 0 })
    | (none, s) =>
      match p.run [] s.stored with
      | .error r => (.failed (refuse "execute batch" r), { s with changes := s.remembered p 0 })
      | .ok effect =>
        (.done, { s with
          stored := effect.stored
          changes := s.remembered p effect.changed })

/-- What comes of an event. -/
def step (e : Engine τ) (event : Event) (s : Session τ) : Answer × Session τ :=
  match event with
  | .start => s.ifOpen start
  | .direct fetch sql parameters =>
    s.ifOpen fun s => answerOf (s.statement e fetch sql parameters)
  | .inside handle fetch sql parameters =>
    s.through handle fun s => answerOf (s.statement e fetch sql parameters)
  | .batch sql => s.ifOpen (batch e sql)
  | .commit handle => s.through handle fun s => (s.forget handle).commit .unfinished
  | .rollback handle => s.through handle fun s => (s.forget handle).rollback .unfinished
  | .drop handle => s.through handle fun s => (.done, (s.forget handle).giveUp .unfinished)
  | .close => (.done, { s with isClosed := true })

/-- The session after a list of events, with what came of each. -/
def run (e : Engine τ) : List Event → Session τ → List Answer × Session τ
  | [], s => ([], s)
  | event :: rest, s =>
    let (answer, s) := step e event s
    let (answers, s) := run e rest s
    (answer :: answers, s)

end Session

end BulkValues.Sqlite
