/-
# The state of a pool

A pool lends connections.  At any time a connection lies idle in a queue, is held by a request
under way, or is lent.  Permits bound how many can be lent: a request first waits for a permit,
in order of arrival, then looks for an idle connection that is still good, and opens a new one
if there is none.  A request keeps its permit until it fails, and the borrower until the
connection is given back.

Connections are numbered in the order they were opened.  Times are in milliseconds.
-/
import BulkValues.Pool.Config
import BulkValues.Pool.Stats

namespace BulkValues

namespace Pool

/-- A connection of the pool with the times that decide whether it may be lent again. -/
structure Entry where
  /-- Its number. -/
  connection : Nat
  /-- When it was opened. -/
  createdAt : Nat
  /-- When it was last taken from the pool or given back. -/
  lastUsed : Nat
deriving DecidableEq, Repr

/-- How far a request for a connection has come. -/
inductive Phase where
  /-- It waits for a permit. -/
  | queued
  /-- It was handed a permit and has not gone on yet. -/
  | granted
  /-- It has a permit and asks whether an idle connection is still good. -/
  | validating (e : Entry)
  /-- It has a permit and closes an idle connection that is not good any more. -/
  | discarding (e : Entry)
  /-- It has a permit and opens a new connection. -/
  | creating
deriving DecidableEq, Repr

/-- Whether a request in this phase has a permit. -/
def Phase.hasPermit : Phase → Bool
  | queued => false
  | _ => true

/-- The connection that a request in this phase holds. -/
def Phase.held? : Phase → Option Entry
  | validating e | discarding e => some e
  | _ => none

/-- A call under way. -/
inductive Task where
  /-- A request for a connection, which must be served before its deadline. -/
  | get (deadline : Nat) (phase : Phase)
  /-- Connections are opened up front, this many more. -/
  | open (missing : Nat)
  /-- Connections that lay idle are closed one after another. -/
  | close (rest : List Entry)
deriving DecidableEq, Repr

/-- The connections that a call holds. -/
def Task.held : Task → List Entry
  | get _ phase => phase.held?.toList
  | «open» _ => []
  | close rest => rest

/-- What a call comes to. -/
inductive Outcome where
  /-- The connections are opened up front. -/
  | opened
  /-- The connection is lent. -/
  | lent (connection : Nat)
  /-- Idle connections are closed. -/
  | closed
  /-- The call failed. -/
  | failed (e : Error)
deriving DecidableEq

end Pool

/-- A pool of connections. -/
structure Pool where
  /-- Its configuration. -/
  config : Pool.Config
  /-- The time. -/
  now : Nat
  /-- The idle connections, the one that was given back first in front. -/
  idle : List Pool.Entry
  /-- The permits that nobody has. -/
  free : Nat
  /-- The requests that wait for a permit, in order of arrival. -/
  queue : List Nat
  /-- The calls under way, the oldest first. -/
  tasks : List (Nat × Pool.Task)
  /-- The connections that are lent, under the request each was lent to. -/
  lent : List (Nat × Pool.Entry)
  /-- How many connections the pool counts as lent. -/
  active : Nat
  /-- How many requests the pool counts as under way. -/
  waiting : Nat
  /-- Whether the pool is closed. -/
  isClosed : Bool
  /-- The connections that are closed themselves. -/
  closedConnections : List Nat
  /-- How many connections were opened. -/
  created : Nat
  /-- How many connections were found not good any more. -/
  discarded : Nat
  /-- How many requests were not served in time. -/
  timedOut : Nat
  /-- How many requests found the queue full. -/
  rejected : Nat
deriving DecidableEq

namespace Pool

/-- A pool before anything happened. -/
def new (config : Config) (now : Nat) : Pool :=
  { config, now, idle := [], free := config.maxSize, queue := [], tasks := [], lent := [],
    active := 0, waiting := 0, isClosed := false, closedConnections := [], created := 0,
    discarded := 0, timedOut := 0, rejected := 0 }

/-- Make a pool. This breaks off if there are more permits than can be handed out. -/
def make (config : Config) (now : Nat) : Except Error Pool :=
  if config.isUsable then .ok (.new config now) else .error (.tooManyPermits config.maxSize)

/-- The statistics of a pool. -/
def stats (p : Pool) : Stats :=
  ⟨p.idle.length, p.active, p.waiting, p.config.maxSize, p.created, p.discarded, p.timedOut,
    p.rejected⟩

/-- The call of a number, if it is under way. -/
def task? (p : Pool) (id : Nat) : Option Task := p.tasks.lookup id

/-- All connections that somebody has: idle ones, those that calls hold, and lent ones. -/
def owned (p : Pool) : List Entry :=
  p.idle ++ p.tasks.flatMap (fun t => t.2.held) ++ p.lent.map (·.2)

/-- The numbers of the connections that nobody has any more. -/
def dropped (p : Pool) : List Nat :=
  (List.range p.created).filter fun n => !(p.owned.any fun e => e.connection = n)

/-- Whether a connection is closed. -/
def isConnectionClosed (p : Pool) (connection : Nat) : Bool :=
  p.closedConnections.contains connection

/-- Whether a connection is older than connections may get. -/
def isExpired (p : Pool) (e : Entry) : Bool :=
  match p.config.maxLifetime with
  | some limit => limit < p.now - e.createdAt
  | none => false

/-- Whether a connection has been idle longer than connections may be. -/
def isStale (p : Pool) (e : Entry) : Bool := p.config.idleTimeout < p.now - e.lastUsed

end Pool

end BulkValues
