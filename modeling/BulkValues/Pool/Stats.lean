/-
# Pool statistics

A snapshot of a pool: where its connections are, and how often connections were created or
thrown away and requests failed.
-/
import BulkValues.Json.Known
import BulkValues.Json.Printer

namespace BulkValues.Pool

open BulkValues.Number

/-- The statistics of a pool. -/
structure Stats where
  /-- Connections that lie idle. -/
  idle : Nat
  /-- Connections that are lent. -/
  active : Nat
  /-- Requests under way. -/
  waiting : Nat
  /-- How many connections may be lent. -/
  maxSize : Nat
  /-- Connections opened so far. -/
  created : Nat
  /-- Connections thrown away so far. -/
  discarded : Nat
  /-- Requests that took too long so far. -/
  timedOut : Nat
  /-- Requests that found the queue full so far. -/
  rejected : Nat
deriving DecidableEq, Repr

namespace Stats

/-- Nothing has happened in a pool that may not lend. -/
def zero : Stats := ⟨0, 0, 0, 0, 0, 0, 0, 0⟩

/-- The numbers in order. -/
def toList (s : Stats) : List Nat :=
  [s.idle, s.active, s.waiting, s.maxSize, s.created, s.discarded, s.timedOut, s.rejected]

/-- The connections that are open. -/
def total (s : Stats) : Nat := s.idle + s.active

/-- The share of the connections that is lent. -/
def utilization (s : Stats) : Binary64 :=
  if s.maxSize = 0 then .zero
  else .ofFloat ((Binary64.ofInt s.active).toFloat / (Binary64.ofInt s.maxSize).toFloat)

/-- Whether every connection is lent. -/
def isExhausted (s : Stats) : Bool := 0 < s.maxSize && s.maxSize ≤ s.active

/-- The names of the fields in a document, in order. -/
def fieldNames : List String :=
  ["idle", "active", "waiting", "max_size", "connections_created", "connections_discarded",
    "requests_timed_out", "requests_rejected"]

/-- The document of statistics, with its fields in order. -/
def toJson (s : Stats) : Json := .object (fieldNames.zip (s.toList.map Json.ofNat))

/-- The statistics of a document. -/
def ofJson? (doc : Json) : Option Stats := do
  match ← (← doc.known? fieldNames).mapM Json.natural? with
  | [idle, active, waiting, maxSize, created, discarded, timedOut, rejected] =>
    some ⟨idle, active, waiting, maxSize, created, discarded, timedOut, rejected⟩
  | _ => none

end Stats

end BulkValues.Pool
