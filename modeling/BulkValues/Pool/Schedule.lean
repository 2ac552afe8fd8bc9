/-
# Running a pool

A schedule decides when the calls of a pool go on and what they find.  Connections are opened
after a delay, closed at once, and judged by whether they are closed or on a list of bad ones.
All calls under way are run again and again, the oldest first, until none of them can end; a
call's work goes before its deadline.
-/
import BulkValues.Pool.Step

namespace BulkValues.Pool

/-- Where connections come from. -/
structure Factory where
  /-- Why no connection can be opened, if that is so. -/
  failure : Option Error := none
  /-- How long the opening of a connection takes. -/
  delay : Nat := 0
  /-- The connections that are bad. -/
  bad : List Nat := []

/-- A pool with the calls that run in it. -/
structure Schedule where
  /-- The pool. -/
  pool : Pool
  /-- Where its connections come from. -/
  factory : Factory := {}
  /-- When the openings under way will end. -/
  due : List (Nat × Nat) := []

namespace Schedule

/-- Whether a connection is good. -/
def isGood (s : Schedule) (e : Entry) : Bool :=
  !s.pool.isConnectionClosed e.connection && !s.factory.bad.contains e.connection

/-- Whether a call opens a connection. -/
def isCreating : Option Task → Bool
  | some (.get _ .creating) | some (.open _) => true
  | _ => false

/-- Let an event happen. An opening that starts is due after the delay. -/
def apply (s : Schedule) (id : Nat) (e : Event) : Schedule × Result :=
  match s.pool.step e with
  | none => (s, none)
  | some (pool, result) =>
    let due := match e with
      | .created .. => s.due.filter fun d => d.1 ≠ id
      | _ => s.due
    let due := if isCreating (pool.task? id) && (due.lookup id).isNone then
        due ++ [(id, pool.now + s.factory.delay)]
      else due
    ({ s with pool, due }, result)

/-- The event that lets a call go on now. -/
def nextEvent? (s : Schedule) (id : Nat) : Task → Option Event
  | .get _ .queued => if s.pool.isClosed then some (.proceed id) else none
  | .get _ .granted => some (.proceed id)
  | .get _ (.validating e) => some (.validated id (s.isGood e))
  | .get _ (.discarding _) => some (.discarded id)
  | .get _ .creating | .open _ =>
    if (s.due.lookup id).any (· ≤ s.pool.now) then some (.created id s.factory.failure) else none
  | .close _ => some (.closedNext id)

/-- Run a call until it ends or has to wait, for at most so many events; then look at its
deadline. -/
def runFor (id : Nat) : Nat → Schedule → Schedule × Result
  | 0, s => (s, none)
  | fuel + 1, s =>
    match s.pool.task? id with
    | none => (s, none)
    | some t =>
      match s.nextEvent? id t with
      | none => s.apply id (.expire id)
      | some e =>
        match s.apply id e with
        | (s, some r) => (s, some r)
        | (s, none) => runFor id fuel s

/-- The largest number of events in a row of one call: two for every idle connection, one for
every connection that it opens or closes, and its own ends. -/
def bound (p : Pool) : Task → Nat
  | .get .. => 2 * p.idle.length + 4
  | .open missing => missing + 1
  | .close rest => rest.length + 1

/-- Run a call until it ends or has to wait. -/
def run (s : Schedule) (id : Nat) : Schedule × Result :=
  match s.pool.task? id with
  | none => (s, none)
  | some t => runFor id (bound s.pool t) s

/-- Run calls one after another; the ends of calls in order. -/
def runAll : List Nat → Schedule → Schedule × List (Nat × Outcome)
  | [], s => (s, [])
  | id :: ids, s =>
    let (s, result) := s.run id
    let (s, results) := runAll ids s
    (s, result.toList ++ results)

/-- Run all calls under way, up to so many times, as long as one of them ends. -/
def settleFor : Nat → Schedule → Schedule × List (Nat × Outcome)
  | 0, s => (s, [])
  | fuel + 1, s =>
    match runAll (s.pool.tasks.map (·.1)) s with
    | (s, []) => (s, [])
    | (s, ends) =>
      let (s, more) := settleFor fuel s
      (s, ends ++ more)

/-- Run all calls under way until none of them can end. -/
def settle (s : Schedule) : Schedule × List (Nat × Outcome) :=
  settleFor (s.pool.tasks.length + 1) s

/-- Let an event of a call happen and run all calls. -/
def perform (s : Schedule) (id : Nat) (e : Event) : Schedule × List (Nat × Outcome) :=
  let (s, result) := s.apply id e
  let (s, ends) := s.settle
  (s, result.toList ++ ends)

/-- Give up all calls and give all connections back. -/
def windUp (s : Schedule) : Schedule :=
  let s := (s.pool.tasks.map (·.1)).foldl (fun s id => (s.apply id (.abandon id)).1) s
  (s.pool.lent.map (·.1)).foldl (fun s id => (s.apply id (.giveBack id)).1) s

end Schedule

end BulkValues.Pool
