/-
# What happens in a cache

A call runs without interruption until it has to wait: for another call that fills its slot,
for a connection that is being opened, or for an object that is being closed.  `Cache.step` says
what an event does and, when it ends a call, what the call comes to.
-/
import BulkValues.Cache.Basic

namespace BulkValues.Cache

/-- An event in a cache. Calls are known by numbers. -/
inductive Event where
  /-- The object of a key is asked for. -/
  | callGet (id : Nat) (key : Key)
  /-- The object of a key is to be closed and forgotten. -/
  | callEvict (id : Nat) (key : Key)
  /-- All objects are to be closed and forgotten. -/
  | callCloseAll (id : Nat)
  /-- A call that waited for a slot goes on. -/
  | resume (id : Nat)
  /-- The opening of a connection has ended, with an error or without. -/
  | created (id : Nat) (failure : Option Error)
  /-- The closing of an object has ended. -/
  | closedNext (id : Nat)
  /-- Somebody closes an object that was handed out. A connection may also be closed by the other
  side, even before it is handed out. -/
  | close (o : Object)

/-- A result of an event: the call that has ended and what it comes to. -/
abbrev Result := Option (Nat × Answer)

/-- Change a slot. -/
def setSlot (c : Cache) (n : Nat) (s : Slot) : Cache := { c with slots := c.slots.set n s }

/-- Put a call at a stage. -/
def setStage (c : Cache) (id : Nat) (stage : Stage) : Cache :=
  { c with calls := (c.calls.filter fun e => e.1 ≠ id) ++ [(id, stage)] }

/-- A call ends. -/
def finish (c : Cache) (id : Nat) (answer : Answer) : Cache × Result :=
  ({ c with calls := c.calls.filter fun e => e.1 ≠ id }, some (id, answer))

/-- The object of a slot is built. -/
def store (c : Cache) (n : Nat) (o : Object) : Cache :=
  c.setSlot n { c.slot n with value := some o, builder := none }

/-- A call fails to fill its slot; the next that waits for it may try. -/
def giveUp (c : Cache) (id n : Nat) (e : Error) : Cache × Result :=
  let s := c.slot n
  (c.setSlot n { s with builder := s.waiters.head?, waiters := s.waiters.tail }).finish id
    (.failed e)

/-- A pool that is built gets the next number and fills its slot. -/
def fillPool (c : Cache) (id n : Nat) (m : Member) : Cache × Result :=
  let o := Object.pool c.pools.length
  (store { c with pools := c.pools ++ [m] } n o).finish id (.object o)

/-- What a pool of a section is built from: its configuration and that of its connections. -/
def poolPlan (c : Cache) (s : Section) : Except Error (Pool.Config × ConnectionConfig) := do
  let config ← s.poolConfig
  let connection := s.toConnectionConfig config.name
  let _ ← c.registry.require connection.driver
  if config.isUsable then pure (config, connection)
  else .error (.tooManyPermits config.maxSize)

/-- What a connection of a section is opened with. -/
def connectionPlan (c : Cache) (s : Section) : Except Error ConnectionConfig := do
  let connection := s.toConnectionConfig c.node.name
  let _ ← c.registry.require connection.driver
  pure connection

/-- A call that may fill a slot starts to. -/
def build (c : Cache) (id n : Nat) (key : Key) : Cache × Result :=
  let c := c.setSlot n { c.slot n with builder := some id }
  let s := key.effectiveSection c.node
  match key.kind with
  | .connectionPool =>
    match c.poolPlan s with
    | .error e => c.giveUp id n e
    | .ok (config, connection) =>
      match (Pool.new config 0).startOpen id with
      | (pool, none) => (c.setStage id (.opening key n connection ⟨pool, []⟩), none)
      | (pool, some _) => c.fillPool id n ⟨pool, []⟩
  | .connection =>
    match c.connectionPlan s with
    | .error e => c.giveUp id n e
    | .ok connection => (c.setStage id (.connecting key n connection), none)

/-- A key gets a new slot. -/
def addSlot (c : Cache) (key : Key) : Cache :=
  { c with slots := c.slots ++ [{ key }], index := c.index ++ [(key, c.slots.length)] }

/-- A call makes a new slot for its key and fills it. -/
def buildNew (c : Cache) (id : Nat) (key : Key) : Cache × Result :=
  let rest := c.index.filter fun e => !(e.1 == key)
  (addSlot { c with index := rest } key).build id c.slots.length key

/-- Whether an object that lies in a slot must be replaced: a connection that is closed. Pools are
handed out as they are. -/
def isSpent (c : Cache) : Object → Bool
  | .connection n => c.isConnectionClosed n
  | .pool _ => false

/-- A call goes to the slot of its key: it takes the object, fills the slot, or waits for the
call that fills it. -/
def approach (c : Cache) (id : Nat) (key : Key) : Cache × Result :=
  match c.slotOf? key with
  | none => c.buildNew id key
  | some n =>
    match (c.slot n).value, (c.slot n).builder with
    | some o, _ => if c.isSpent o then c.buildNew id key else c.finish id (.object o)
    | none, none => c.build id n key
    | none, some _ =>
      ((c.setSlot n { c.slot n with waiters := (c.slot n).waiters ++ [id] }).setStage id
        (.waiting key n), none)

/-- A call has the object of a slot and ends with it. An object that must be replaced leaves the
index, if its slot is still the one of the key, and the call goes to the slot of its key again. -/
def take (c : Cache) (id n : Nat) (key : Key) (o : Object) : Cache × Result :=
  if c.isSpent o then
    approach { c with index := c.index.filter fun e => !(e.1 == key && e.2 == n) } id key
  else c.finish id (.object o)

/-- A call that waited for a slot goes on when the slot is filled or is its own to fill. -/
def continueAt (c : Cache) (id n : Nat) (key : Key) : Option (Cache × Result) :=
  match (c.slot n).value with
  | some o => some (c.take id n key o)
  | none => if (c.slot n).builder = some id then some (c.build id n key) else none

/-- Close an object. A pool closes its idle connections; those that are lent stay open until they
are given back. -/
def closeObject (c : Cache) : Object → Cache
  | .connection n => { c with closedConnections := c.closedConnections ++ [n] }
  | .pool n =>
    match c.pools[n]? with
    | none => c
    | some m =>
      let numbers := m.pool.idle.filterMap fun e => m.connections[e.connection]?
      if m.pool.isClosed then c
      else
        { c with
          pools := c.pools.set n { m with pool := m.pool.shutDown }
          closedConnections := c.closedConnections ++ numbers }

/-- A call closes objects one after another, or ends if there are none. -/
def closeAll (c : Cache) (id : Nat) (objects : List Object) (answer : Answer) : Cache × Result :=
  match objects with
  | [] => c.finish id answer
  | _ => (c.setStage id (.closing objects answer), none)

/-- The objects in the index, pools before connections. -/
def objects (c : Cache) : List Object :=
  let all := c.index.filterMap fun e => (c.slot e.2).value
  let isPool : Object → Bool := fun o => o matches .pool _
  all.filter isPool ++ all.filter fun o => !isPool o

/-- The opening of a connection has ended. -/
def finishOpening (c : Cache) (id : Nat) (failure : Option Error) :
    Stage → Option (Cache × Result)
  | .connecting key n config =>
    match failure with
    | some e => some (c.giveUp id n e)
    | none =>
      let o := Object.connection c.opened.length
      some ((store { c with opened := c.opened ++ [config] } n o).take id n key o)
  | .opening key n config m =>
    match m.pool.step (.created id failure), failure with
    | none, _ => none
    | some _, some e => some (c.giveUp id n e)
    | some (pool, result), none =>
      let m := ⟨pool, m.connections ++ [c.opened.length]⟩
      let c := { c with opened := c.opened ++ [config] }
      if result.isSome then some (c.fillPool id n m)
      else some (c.setStage id (.opening key n config m), none)
  | _ => none

/-- What an event does; `none` when it cannot happen. -/
def step (c : Cache) : Event → Option (Cache × Result)
  | .callGet id key => some (c.approach id key)
  | .callEvict id key =>
    let found := ((c.slotOf? key).bind fun n => (c.slot n).value).toList
    some (closeAll { c with index := c.index.filter fun e => !(e.1 == key) } id found
      (.evicted !found.isEmpty))
  | .callCloseAll id => some (closeAll { c with index := [] } id c.objects .allClosed)
  | .resume id =>
    match c.stage? id with
    | some (.waiting key n) => c.continueAt id n key
    | _ => none
  | .created id failure => (c.stage? id).bind (c.finishOpening id failure)
  | .closedNext id =>
    match c.stage? id with
    | some (.closing (o :: rest) answer) => some ((c.closeObject o).closeAll id rest answer)
    | _ => none
  | .close o => some (c.closeObject o, none)

/-! ## Calls without interruption -/

/-- The event that lets a call go on, when connections are opened and closed at once. -/
def nextEvent (failure : Option Error) (id : Nat) : Stage → Event
  | .waiting .. => .resume id
  | .opening .. | .connecting .. => .created id failure
  | .closing .. => .closedNext id

/-- How many events a call needs at most. -/
def bound (c : Cache) : Stage → Nat
  | .waiting .. => 1
  | .opening _ _ _ m => m.pool.config.minSize + 1
  | .connecting .. => 1
  | .closing rest _ => rest.length + c.index.length + 1

/-- Run a call to its end, for at most so many events. -/
def runFor (failure : Option Error) (id : Nat) : Nat → Cache → Cache × Option Answer
  | 0, c => (c, none)
  | fuel + 1, c =>
    match (c.stage? id).bind fun stage => c.step (nextEvent failure id stage) with
    | none => (c, none)
    | some (c, some (_, answer)) => (c, some answer)
    | some (c, none) => runFor failure id fuel c

/-- A call that nobody interrupts, when connections are opened and closed at once. -/
def perform (c : Cache) (failure : Option Error) (id : Nat) (e : Event) : Cache × Option Answer :=
  match c.step e with
  | none => (c, none)
  | some (c, some (_, answer)) => (c, some answer)
  | some (c, none) =>
    match c.stage? id with
    | none => (c, none)
    | some stage => runFor failure id (c.bound stage) c

end BulkValues.Cache
