/-
# The state of a cache

A cache builds pools and single connections of a node when they are first asked for and shares
them between all who ask with the same key.  Under every key there is a slot.  One call at a
time may fill an empty slot; others that want the same object wait for it, in order of arrival,
and the next of them tries when filling fails.

All connections that are opened for the cache are numbered together, those of pools included;
so are the pools.
-/
import BulkValues.Cache.Key
import BulkValues.Pool.Step
import BulkValues.Registry

namespace BulkValues

namespace Cache

/-- What a cache hands out. -/
inductive Object where
  | pool (n : Nat)
  | connection (n : Nat)
deriving DecidableEq, Repr

/-- The place of an object. -/
structure Slot where
  /-- The key it was made for. -/
  key : Key := .ofOverrides .connection []
  /-- The object, once it is built. -/
  value : Option Object := none
  /-- The call that may fill the slot. -/
  builder : Option Nat := none
  /-- The calls that wait for the object, in order of arrival. -/
  waiters : List Nat := []

/-- A pool of the cache. -/
structure Member where
  /-- The pool. -/
  pool : Pool
  /-- The number that each of its connections has among all. -/
  connections : List Nat

/-- What a call comes to. -/
inductive Answer where
  /-- The object that was asked for. -/
  | object (o : Object)
  /-- Whether there was an object to evict. -/
  | evicted (found : Bool)
  /-- All objects are closed. -/
  | allClosed
  /-- The call failed. -/
  | failed (e : Error)

/-- How far a call has come. -/
inductive Stage where
  /-- It waits for the object of a slot. -/
  | waiting (key : Key) (slot : Nat)
  /-- It fills the slot of a key with a pool, whose connections are being opened. -/
  | opening (key : Key) (slot : Nat) (config : ConnectionConfig) (member : Member)
  /-- It fills the slot of a key with a connection, which is being opened. -/
  | connecting (key : Key) (slot : Nat) (config : ConnectionConfig)
  /-- It closes objects one after another. -/
  | closing (rest : List Object) (answer : Answer)

end Cache

/-- A cache of pools and connections. -/
structure Cache where
  /-- The node whose sections are used. -/
  node : Node
  /-- The drivers. -/
  registry : Registry
  /-- All slots that were ever made. -/
  slots : List Cache.Slot := []
  /-- The slot of every key. -/
  index : List (Cache.Key × Nat) := []
  /-- The calls under way, the oldest first. -/
  calls : List (Nat × Cache.Stage) := []
  /-- The connections that were opened, in order. -/
  opened : List ConnectionConfig := []
  /-- The connections that are closed. -/
  closedConnections : List Nat := []
  /-- The pools that were built, in order. -/
  pools : List Cache.Member := []

namespace Cache

/-- The slot of a key. -/
def slotOf? (c : Cache) (key : Key) : Option Nat := (c.index.find? fun e => e.1 == key).map (·.2)

/-- A slot by its number. -/
def slot (c : Cache) (n : Nat) : Slot := c.slots.getD n {}

/-- The call of a number, if it is under way. -/
def stage? (c : Cache) (id : Nat) : Option Stage := c.calls.lookup id

/-- Whether a connection is closed. -/
def isConnectionClosed (c : Cache) (n : Nat) : Bool := c.closedConnections.contains n

/-- Whether an object is closed. -/
def isClosed (c : Cache) : Object → Bool
  | .connection n => c.isConnectionClosed n
  | .pool n => (c.pools[n]?).any fun m => m.pool.isClosed

/-- How many objects are there. -/
def size (c : Cache) : Nat := (c.index.filter fun e => (c.slot e.2).value.isSome).length

end Cache

end BulkValues
