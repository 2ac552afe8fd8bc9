/-
# What happens in a pool

A call runs without interruption until it has to wait for something: a permit, the verdict on a
connection, the end of a closing or of an opening.  An event is a call's start, the arrival of
what a call waits for, the end of its patience, a connection that is given back, or time that
passes.  `Pool.step` says what an event does and, when it ends a call, what the call comes to.
-/
import BulkValues.Pool.Basic

namespace BulkValues.Pool

/-- An event in a pool. Calls are known by numbers. -/
inductive Event where
  /-- Connections are to be opened up front. -/
  | callOpen (id : Nat)
  /-- A connection is asked for. -/
  | callGet (id : Nat)
  /-- Idle connections are to be closed. -/
  | callCloseIdle (id : Nat)
  /-- The pool is to be closed. -/
  | callClose (id : Nat)
  /-- A request goes on after it was handed a permit, or finds the pool closed. -/
  | proceed (id : Nat)
  /-- The verdict on a connection is there. -/
  | validated (id : Nat) (good : Bool)
  /-- The closing of a connection that is not good any more has ended. -/
  | discarded (id : Nat)
  /-- The opening of a connection has ended, with an error or without. -/
  | created (id : Nat) (failure : Option Error)
  /-- The closing of an idle connection has ended. -/
  | closedNext (id : Nat)
  /-- The deadline of a request is reached. -/
  | expire (id : Nat)
  /-- The caller gives a request up. -/
  | abandon (id : Nat)
  /-- The connection that was lent to a request is given back. -/
  | giveBack (id : Nat)
  /-- Somebody closes a connection itself. -/
  | closeConnection (connection : Nat)
  /-- Time passes. -/
  | pass (ms : Nat)

/-- A result of an event: the call that has ended and what it comes to. -/
abbrev Result := Option (Nat × Outcome)

/-- Put a call where a call of the same number stands. -/
def setTask (p : Pool) (id : Nat) (t : Task) : Pool :=
  { p with tasks := p.tasks.map fun u => if u.1 = id then (id, t) else u }

/-- Add a call. -/
def addTask (p : Pool) (id : Nat) (t : Task) : Pool := { p with tasks := p.tasks ++ [(id, t)] }

/-- Take a call away. -/
def removeTask (p : Pool) (id : Nat) : Pool :=
  { p with tasks := p.tasks.filter fun u => u.1 ≠ id }

/-- Change the phase of a request. -/
def setPhase (p : Pool) (id : Nat) (phase : Phase) : Pool :=
  { p with tasks := p.tasks.map fun u =>
      match u with
      | (n, .get deadline old) => (n, .get deadline (if n = id then phase else old))
      | other => other }

/-- A permit comes back: the first in the queue is handed it, or else it is free. -/
def releasePermit (p : Pool) : Pool :=
  match p.queue with
  | [] => { p with free := p.free + 1 }
  | id :: rest => { p with queue := rest }.setPhase id .granted

/-- A request that has a permit takes the idle connection in front: one that is too old or was
idle for too long is counted and closed, the good looks of another are checked; without idle
connections a new one is opened. -/
def search (p : Pool) (id : Nat) : Pool :=
  match p.idle with
  | [] => p.setPhase id .creating
  | e :: rest =>
    if p.isExpired e || p.isStale e then
      { p with idle := rest, discarded := p.discarded + 1 }.setPhase id (.discarding e)
    else { p with idle := rest }.setPhase id (.validating e)

/-- A request ends with a connection. -/
def lend (p : Pool) (id : Nat) (e : Entry) : Pool × Result :=
  ({ p.removeTask id with
      waiting := p.waiting - 1, active := p.active + 1, lent := p.lent ++ [(id, e)] },
    some (id, .lent e.connection))

/-- A request ends without a connection: its permit comes back, or it leaves the queue. -/
def quit (p : Pool) (id : Nat) (phase : Phase) : Pool :=
  let q := { p.removeTask id with waiting := p.waiting - 1 }
  if phase.hasPermit then q.releasePermit else { q with queue := q.queue.filter (· ≠ id) }

/-- The start of a request. A closed pool refuses it. A request that finds as many under way as
may wait, and no free permit, is refused too. -/
def startGet (p : Pool) (id : Nat) : Pool × Result :=
  if p.isClosed then (p, some (id, .failed (.closedPool p.config.name)))
  else
    match p.config.waitingLimit, p.free with
    | limit, 0 =>
      if limit.any (· ≤ p.waiting) then
        ({ p with rejected := p.rejected + 1 },
          some (id, .failed (.queueFull p.config.name p.waiting)))
      else
        ({ p with waiting := p.waiting + 1, queue := p.queue ++ [id] }.addTask id
          (.get (p.now + p.config.acquireTimeout) .queued), none)
    | _, free + 1 =>
      (({ p with waiting := p.waiting + 1, free }.addTask id
        (.get (p.now + p.config.acquireTimeout) .granted)).search id, none)

/-- The start of opening connections up front: as many as are missing now, whatever happens
meanwhile. -/
def startOpen (p : Pool) (id : Nat) : Pool × Result :=
  if p.isClosed then (p, some (id, .failed (.closedPool p.config.name)))
  else
    match p.config.minSize - (p.idle.length + p.active) with
    | 0 => (p, some (id, .opened))
    | missing + 1 => (p.addTask id (.open (missing + 1)), none)

/-- All idle connections are taken out to be closed. -/
def startCloseIdle (p : Pool) (id : Nat) : Pool × Result :=
  match p.idle with
  | [] => (p, some (id, .closed))
  | entries => ({ p with idle := [] }.addTask id (.close entries), none)

/-- The pool is closed: the queue is dissolved and all idle connections are taken out to be
closed. Nothing happens when it is closed already. -/
def startClose (p : Pool) (id : Nat) : Pool × Result :=
  if p.isClosed then (p, some (id, .closed))
  else { p with isClosed := true, queue := [] }.startCloseIdle id

/-- A pool that is closed without interruption: its queue is dissolved and its idle connections
are closed. -/
def shutDown (p : Pool) : Pool :=
  if p.isClosed then p
  else { p with
    isClosed := true
    queue := []
    idle := []
    closedConnections := p.closedConnections ++ p.idle.map Entry.connection }

/-- The next connection, opened now. -/
def fresh (p : Pool) : Entry := ⟨p.created, p.now, p.now⟩

/-- The opening of a connection has ended. -/
def finishCreation (p : Pool) (id : Nat) (failure : Option Error) : Task → Option (Pool × Result)
  | .get _ .creating =>
    match failure with
    | some e => some (p.quit id .creating, some (id, .failed e))
    | none => some (lend { p with created := p.created + 1 } id p.fresh)
  | .open (missing + 1) =>
    match failure with
    | some e => some (p.removeTask id, some (id, .failed e))
    | none =>
      let q := { p with
        created := p.created + 1, idle := p.idle ++ [p.fresh] }
      if missing = 0 then some (q.removeTask id, some (id, .opened))
      else some (q.setTask id (.open missing), none)
  | _ => none

/-- A connection comes back. It is dropped if the pool or the connection is closed, and dropped
and counted if it is too old; otherwise it is the last of the idle ones. -/
def takeBack (p : Pool) (id : Nat) (e : Entry) : Pool :=
  let q := { p with active := p.active - 1, lent := p.lent.filter fun l => l.1 ≠ id }
  let q :=
    if p.isClosed || p.isConnectionClosed e.connection then q
    else if p.isExpired e then { q with discarded := q.discarded + 1 }
    else { q with idle := q.idle ++ [{ e with lastUsed := p.now }] }
  q.releasePermit

/-- What an event does; `none` when it cannot happen. -/
def step (p : Pool) : Event → Option (Pool × Result)
  | .callOpen id => some (p.startOpen id)
  | .callGet id => some (p.startGet id)
  | .callCloseIdle id => some (p.startCloseIdle id)
  | .callClose id => some (p.startClose id)
  | .proceed id =>
    match p.task? id with
    | some (.get _ .granted) =>
      if p.isClosed then some (p.quit id .granted, some (id, .failed .closedWhileQueued))
      else some (p.search id, none)
    | some (.get _ .queued) =>
      if p.isClosed then some (p.quit id .queued, some (id, .failed .closedWhileQueued)) else none
    | _ => none
  | .validated id good =>
    match p.task? id with
    | some (.get _ (.validating e)) =>
      if good then some (p.lend id { e with lastUsed := p.now })
      else some ({ p with discarded := p.discarded + 1 }.setPhase id (.discarding e), none)
    | _ => none
  | .discarded id =>
    match p.task? id with
    | some (.get _ (.discarding e)) =>
      some ({ p with closedConnections := p.closedConnections ++ [e.connection] }.search id, none)
    | _ => none
  | .created id failure => (p.task? id).bind (p.finishCreation id failure)
  | .closedNext id =>
    match p.task? id with
    | some (.close (e :: rest)) =>
      let q := { p with closedConnections := p.closedConnections ++ [e.connection] }
      if rest = [] then some (q.removeTask id, some (id, .closed))
      else some (q.setTask id (.close rest), none)
    | _ => none
  | .expire id =>
    match p.task? id with
    | some (.get deadline phase) =>
      if deadline ≤ p.now then
        some ({ p.quit id phase with timedOut := p.timedOut + 1 },
          some (id, .failed (.timedOut (durationText p.config.acquireTimeout))))
      else none
    | _ => none
  | .abandon id =>
    match p.task? id with
    | some (.get _ phase) => some (p.quit id phase, none)
    | some _ => some (p.removeTask id, none)
    | none => none
  | .giveBack id => (p.lent.lookup id).map fun e => (p.takeBack id e, none)
  | .closeConnection connection =>
    some ({ p with closedConnections := p.closedConnections ++ [connection] }, none)
  | .pass ms => some ({ p with now := p.now + ms }, none)

end BulkValues.Pool
