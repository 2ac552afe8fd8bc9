/-
# Sessions of a PostgreSQL connection

A connection has one client, and whoever sends commands to the server holds it.  A statement
that is run directly holds it until the server has answered; a transaction holds it from its
beginning to its end, so that nothing else can come in between.  Those who want the client wait
in order of arrival.  A transaction that is given up unfinished still holds the client until its
rollback was answered.

A call runs without interruption until it has to wait: for the client, or for the server.  The
call that begins a transaction gives it its number.
-/
import BulkValues.Error
import BulkValues.Postgres.Report

namespace BulkValues.Postgres

/-- A command to the server. -/
inductive Command where
  | start
  | commit
  | rollback
  /-- Prepare a statement. -/
  | prepare (sql : String)
  /-- Run a statement that was prepared. -/
  | run (sql : String)
deriving DecidableEq, Repr

/-- On whose behalf a command is sent. -/
inductive Owner where
  /-- A call that is not in a transaction. -/
  | call (id : Nat)
  /-- A transaction. -/
  | transaction (id : Nat)
deriving DecidableEq, Repr

/-- What a call is about. -/
inductive Task where
  /-- Run a statement directly; with `fetch` for its rows. -/
  | direct (fetch : Bool) (sql : String)
  /-- Begin a transaction. -/
  | start
  /-- Run a statement in a transaction. -/
  | inside (transaction : Nat) (fetch : Bool) (sql : String)
  /-- Commit a transaction. -/
  | commit (transaction : Nat)
  /-- Roll a transaction back. -/
  | rollback (transaction : Nat)
  /-- Roll back a transaction that was given up. -/
  | unwind (transaction : Nat)
deriving DecidableEq, Repr

/-- How far a call has come. -/
inductive Phase where
  /-- It waits for the client. -/
  | waiting
  /-- It may send its next command. -/
  | ready
  /-- It waits for the answer to a command. -/
  | sent (command : Command)
deriving DecidableEq, Repr

/-- The state of a connection. -/
structure Session where
  /-- The call or transaction that holds the client. -/
  holder : Option Owner := none
  /-- The calls that wait for the client, in order of arrival. -/
  waiters : List Nat := []
  /-- The calls under way. -/
  calls : List (Nat × Task × Phase) := []
  /-- The transactions whose handles are in use. -/
  alive : List Nat := []
  /-- The transactions that began. -/
  begun : List Nat := []
  /-- All commands that were sent, in order. -/
  log : List (Owner × Command) := []
  /-- The connection was closed. -/
  isClosed : Bool := false

/-- What a call comes to. -/
inductive Reply where
  /-- It is done. -/
  | done
  /-- It failed. -/
  | failed (reason : Error)
deriving DecidableEq

/-- What can happen on a connection. Calls are known by numbers. -/
inductive SessionEvent where
  /-- A call that does not belong to a transaction. -/
  | call (id : Nat) (task : Task)
  /-- A call that may send its next command does. -/
  | proceed (id : Nat)
  /-- The server answers a call's command, with a report if it failed. -/
  | answered (id : Nat) (report : Option Report)
  /-- The server has done what a statement's command said, but its answer cannot be used: the
  parameters do not fit the statement that was prepared, or a cell of a row cannot be read. -/
  | unusable (id : Nat) (reason : Error)
  /-- The connection is closed. -/
  | close

/-- A result of an event: the call that has ended and what it comes to. -/
abbrev SessionResult := Option (Nat × Reply)

namespace Task

/-- The transaction that a task belongs to. -/
def transaction? : Task → Option Nat
  | inside t .. | commit t | rollback t | unwind t => some t
  | _ => none

/-- On whose behalf a call sends commands. -/
def owner (id : Nat) : Task → Owner
  | direct .. => .call id
  | start => .transaction id
  | inside t .. | commit t | rollback t | unwind t => .transaction t

/-- The first command of a task. -/
def firstCommand : Task → Command
  | direct _ sql | inside _ _ sql => .prepare sql
  | start => .start
  | commit _ => .commit
  | rollback _ | unwind _ => .rollback

/-- Whether a task ends its transaction. -/
def isEnd : Task → Bool
  | commit _ | rollback _ | unwind _ => true
  | _ => false

/-- What is said when a command of a task fails. -/
def failureText (t : Task) (c : Command) : String :=
  match t with
  | direct fetch _ | inside _ fetch _ =>
    let kind := if fetch then "query" else "statement"
    match c with
    | .prepare _ => "Failed to prepare " ++ kind
    | _ => "Failed to execute " ++ kind
  | start => "Failed to begin transaction"
  | commit _ => "Failed to commit transaction"
  | rollback _ | unwind _ => "Failed to rollback transaction"

end Task

namespace Session

/-- A call under way. -/
def call? (s : Session) (id : Nat) : Option (Task × Phase) := s.calls.lookup id

/-- Whether a call in a transaction is under way. -/
def isBusy (s : Session) (transaction : Nat) : Bool :=
  s.calls.any fun c => c.2.1.transaction? == some transaction

/-- Put a call at a phase. -/
def setPhase (s : Session) (id : Nat) (task : Task) (phase : Phase) : Session :=
  { s with calls := (s.calls.filter fun c => c.1 ≠ id) ++ [(id, task, phase)] }

/-- The client goes to the first call that waits for it. -/
def release (s : Session) : Session :=
  match s.waiters with
  | [] => { s with holder := none }
  | next :: rest =>
    match s.call? next with
    | some (task, _) =>
      setPhase { s with holder := some (task.owner next), waiters := rest } next task .ready
    | none => { s with holder := none, waiters := rest }

/-- A call ends. It keeps the client if it began a transaction or was inside one that goes on. -/
def finish (s : Session) (id : Nat) (task : Task) (keeps : Bool) (reply : Reply) :
    Session × SessionResult :=
  let s := { s with calls := s.calls.filter fun c => c.1 ≠ id }
  (if keeps || (task.transaction?.isSome && !task.isEnd) then s else s.release, some (id, reply))

/-- A call is made. Direct statements and beginnings are refused on a closed connection and need
the client; the others go through a handle. A transaction is not ended while calls inside it
are under way. -/
def startCall (s : Session) (id : Nat) (task : Task) : Option (Session × SessionResult) :=
  if (s.call? id).isSome then none
  else match task.transaction? with
    | none =>
      if id ∈ s.begun then none
      else if s.isClosed then some (s, some (id, .failed (.closedConnection "PostgreSQL")))
      else if s.holder.isNone then
        some (setPhase { s with holder := some (task.owner id) } id task .ready, none)
      else some (setPhase { s with waiters := s.waiters ++ [id] } id task .waiting, none)
    | some t =>
      if t ∉ s.alive ∨ (task.isEnd ∧ s.isBusy t) then none
      else
        let s := if task.isEnd then { s with alive := s.alive.erase t } else s
        some (s.setPhase id task .ready, none)

/-- A call sends a command; on a closed connection the command fails and is not sent. -/
def send (s : Session) (id : Nat) (task : Task) (c : Command) : Session × SessionResult :=
  if s.isClosed then
    s.finish id task false (.failed (.refused (task.failureText c) "connection closed"))
  else
    (setPhase { s with log := s.log ++ [(task.owner id, c)] } id task (.sent c), none)

/-- The server has done what a command said. -/
def succeed (s : Session) (id : Nat) (task : Task) : Command → Session × SessionResult
  | .prepare sql => s.send id task (.run sql)
  | .start =>
    finish { s with alive := id :: s.alive, begun := id :: s.begun } id task true .done
  | _ => s.finish id task false .done

/-- What an event does; `none` when it cannot happen. -/
def step (s : Session) : SessionEvent → Option (Session × SessionResult)
  | .call id task => s.startCall id task
  | .proceed id =>
    match s.call? id with
    | some (task, .ready) => some (s.send id task task.firstCommand)
    | _ => none
  | .answered id report =>
    match s.call? id with
    | some (task, .sent c) =>
      match report with
      | none => some (s.succeed id task c)
      | some r =>
        some (s.finish id task false (.failed (.refused (task.failureText c) r.text)))
    | _ => none
  | .unusable id reason =>
    match s.call? id with
    | some (task, .sent (.prepare _)) => some (s.finish id task false (.failed reason))
    | some (task, .sent (.run _)) => some (s.finish id task false (.failed reason))
    | _ => none
  | .close => some ({ s with isClosed := true }, none)

/-- The session after a list of events; `none` when one of them cannot happen. -/
def run (s : Session) (events : List SessionEvent) : Option Session :=
  events.foldlM (fun s e => (s.step e).map (·.1)) s

end Session

end BulkValues.Postgres
