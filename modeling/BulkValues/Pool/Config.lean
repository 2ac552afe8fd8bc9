/-
# Pool configuration

How many connections a pool keeps and lends, how long a request may wait, when a connection
is too old, and how many requests may queue.  Times are in milliseconds.  Sizes are checked
where a configuration is made from two sizes; one that is read from a document is taken as it
stands.
-/
import BulkValues.Error
import BulkValues.Json.Known
import BulkValues.Json.Printer

namespace BulkValues.Pool

-- The power is the core library's, also where another one is in scope.
attribute [local instance (high)] instPowNat

/-- The configuration of a pool. -/
structure Config where
  /-- How many connections are opened up front. -/
  minSize : Nat
  /-- How many connections may be lent at a time. -/
  maxSize : Nat
  /-- How long a request may take. -/
  acquireTimeout : Nat := 30000
  /-- How long a connection may lie idle. -/
  idleTimeout : Nat := 600000
  /-- How old a connection may get, if there is a limit. -/
  maxLifetime : Option Nat := some 3600000
  /-- How many requests may be queued; zero stands for any number. -/
  maxWaiting : Nat := 0
  /-- The name that was given. -/
  givenName : Option String := none
deriving DecidableEq

namespace Config

/-- A configuration of two sizes. -/
def ofSizes (minSize maxSize : Nat) : Except Error Config :=
  if maxSize = 0 then .error .zeroMaxSize
  else if maxSize < minSize then .error (.minAboveMax minSize maxSize)
  else .ok { minSize, maxSize }

/-- Four connections, all of them kept. -/
def standard : Config := { minSize := 4, maxSize := 4 }

/-- A call that sets one part of a configuration; the sizes are settled before. -/
inductive Setting where
  /-- How long a request may take. -/
  | acquireTimeout (ms : UInt64)
  /-- How long a connection may lie idle. -/
  | idleTimeout (ms : UInt64)
  /-- How old a connection may get. -/
  | maxLifetime (ms : UInt64)
  /-- A connection may get as old as it likes. -/
  | noMaxLifetime
  /-- How many requests may be queued. -/
  | maxWaiting (n : UInt64)
  /-- The name. -/
  | name (text : String)

/-- The configuration with one part set. -/
def set (c : Config) : Setting → Config
  | .acquireTimeout ms => { c with acquireTimeout := ms.toNat }
  | .idleTimeout ms => { c with idleTimeout := ms.toNat }
  | .maxLifetime ms => { c with maxLifetime := some ms.toNat }
  | .noMaxLifetime => { c with maxLifetime := none }
  | .maxWaiting n => { c with maxWaiting := n.toNat }
  | .name text => { c with givenName := some text }

/-- The name of the pool. -/
def name (c : Config) : String := c.givenName.getD "default"

/-- The limit of the queue, if there is one. -/
def waitingLimit (c : Config) : Option Nat := if c.maxWaiting = 0 then none else some c.maxWaiting

/-- The names of the fields in a document, in order. -/
def fieldNames : List String :=
  ["min_size", "max_size", "acquire_timeout_ms", "idle_timeout_ms", "max_lifetime_ms",
    "max_waiting", "name"]

/-- The document of a configuration, with its fields in order. -/
def toJson (c : Config) : Json :=
  .object (fieldNames.zip [.ofNat c.minSize, .ofNat c.maxSize, .ofNat c.acquireTimeout,
    .ofNat c.idleTimeout, (c.maxLifetime.map Json.ofNat).getD .null, .ofNat c.maxWaiting,
    (c.givenName.map Json.string).getD .null])

/-- The configuration of a document; the sizes are not checked. -/
def ofJson? (doc : Json) : Option Config := do
  match ← doc.known? fieldNames with
  | [minSize, maxSize, acquire, idle, lifetime, waiting, name] =>
    pure ⟨← Json.natural? minSize, ← Json.natural? maxSize, ← Json.natural? acquire,
      ← Json.natural? idle, ← Json.optionalNatural? lifetime, ← Json.natural? waiting,
      ← Json.optionalString? name⟩
  | _ => none

/-- The largest number of permits that can be handed out. -/
def maxPermits : Nat := (2 ^ (64 : Nat) - 1) / 2 ^ (3 : Nat)

/-- Whether a pool can be made: its permits must not exceed what can be counted. -/
def isUsable (c : Config) : Bool := c.maxSize ≤ maxPermits

end Config

/-- The text of a time in milliseconds: in milliseconds below a second, else in seconds with
no zeros at the end. -/
def durationText (ms : Nat) : String :=
  if ms = 0 then "0ns"
  else if ms < 1000 then toString ms ++ "ms"
  else
    let rest := ms % 1000
    let places := [rest / 100, rest / 10 % 10, rest % 10]
    let kept := (places.reverse.dropWhile (· == 0)).reverse
    toString (ms / 1000) ++
      (if kept.isEmpty then "" else "." ++ String.join (kept.map toString)) ++ "s"

end BulkValues.Pool
