/-
# A request on its own

What becomes of a request while no other call goes on: it takes a free permit and looks through
the idle connections from the front until one is good, or opens a new one; its time may run out
wherever it waits.  While it is under way, the pool is the one that it began in, but for its
permit, its place among the requests, and the connections that it took from the front.  All of
these but the one that it holds have failed a check, and were closed and counted.

A request that fails gives everything back but these connections.  If its time runs out while it
waits for the verdict on a connection, this connection is gone as well, and nobody counts it.
-/
import BulkValues.Proofs.Pool.Lineage
import BulkValues.Proofs.Pool.Queueing

namespace BulkValues.Pool

/-- Whether an event is what a request in this phase waits for. -/
def Phase.awaits (id : ℕ) : Phase → Event → Bool
  | queued, .proceed n | granted, .proceed n => n = id
  | validating _, .validated n _ => n = id
  | discarding _, .discarded n => n = id
  | creating, .created n _ => n = id
  | _, _ => false

/-- How many events a request in this phase takes at most, apart from two for every connection
that is still idle. -/
def Phase.remaining : Phase → ℕ
  | validating _ => 3
  | discarding _ => 2
  | _ => 1

lemma Phase.remaining_le (phase : Phase) : phase.remaining ≤ 3 := by
  cases phase <;> simp [remaining]

lemma Phase.remaining_pos (phase : Phase) : 0 < phase.remaining := by
  cases phase <;> simp [remaining]

/-- What has happened to a request, and in which phase. -/
abbrev Log := List (Phase × Event)

/-- The connections on which a verdict was still out when the time of the request was over. -/
def cutOff (log : Log) : List Entry :=
  log.filterMap fun u =>
    match u with
    | (.validating e, .expire _) => some e
    | _ => none

/-- A request that begins in a pool and is the only call to go on: what it waits for comes, or its
deadline, or time passes.  It ends with a result. -/
inductive Attempt (p : Pool) (id : ℕ) : Log → Pool × Result → Prop where
  | begun (hid : p.isUnused id = true) : Attempt p id [] (p.startGet id)
  | wentOn {log : Log} {q : Pool} {deadline : ℕ} {phase : Phase} {event : Event}
      {next : Pool × Result} (h : Attempt p id log (q, none))
      (ht : q.task? id = some (.get deadline phase))
      (hevent : phase.awaits id event = true ∨ event = .expire id)
      (hstep : q.step event = some next) : Attempt p id (log ++ [(phase, event)]) next
  | waited {log : Log} {q : Pool} (h : Attempt p id log (q, none)) (ms : ℕ) :
      Attempt p id log ({ q with now := q.now + ms }, none)

/-- Whether a connection is older, or has been idle for longer, than connections may be at a
time. -/
def isWornAt (p : Pool) (time : ℕ) (e : Entry) : Bool :=
  ({ p with now := time } : Pool).isExpired e || ({ p with now := time } : Pool).isStale e

/-- A connection failed a check of a request: it was worn at some time since the request began, or
the verdict on it was bad. -/
def Fails (p : Pool) (id : ℕ) (log : Log) (now : ℕ) (e : Entry) : Prop :=
  (∃ time, p.now ≤ time ∧ time ≤ now ∧ p.isWornAt time e = true) ∨
    (.validating e, .validated id false) ∈ log

/-- A pool at a time when connections are gone from the front of the idle ones, which were closed
and counted, and some more were counted. -/
def searched (p : Pool) (now : ℕ) (gone rest : List Entry) (more : ℕ) : Pool :=
  { p with
    now, idle := rest
    closedConnections := p.closedConnections ++ gone.map Entry.connection
    discarded := p.discarded + gone.length + more }

/-- A pool in which a request is under way that has searched it so far. -/
def attempted (p : Pool) (id : ℕ) (phase : Phase) (now : ℕ) (gone rest : List Entry) : Pool :=
  { p.searched now gone rest phase.discards with
    free := if phase.hasPermit then p.free - 1 else p.free
    queue := if phase.hasPermit then p.queue else p.queue ++ [id]
    waiting := p.waiting + 1 }.addTask id (.get (p.now + p.config.acquireTimeout) phase)

/-- What is known in a phase of a request: a connection that is being discarded has failed, one
that is validated was not worn when it was taken, and a new one is opened when none is left. -/
def Known (p : Pool) (id : ℕ) (log : Log) (now : ℕ) (rest : List Entry) : Phase → Prop
  | .queued => True
  | .granted => False
  | .validating e => ∃ time, p.now ≤ time ∧ time ≤ now ∧ p.isWornAt time e = false
  | .discarding e => p.Fails id log now e
  | .creating => rest = []

/-- How far a request has come that goes on alone: it waits for a permit, or has one and took some
connections from the front, all of which failed a check but the one that it holds. -/
structure Underway (p : Pool) (id : ℕ) (log : Log) (phase : Phase) (now : ℕ)
    (gone rest : List Entry) : Prop where
  later : p.now ≤ now
  isOpen : p.isClosed = false
  permit : phase.hasPermit = true ∧ 0 < p.free ∨ phase = .queued ∧ p.free = 0
  idle : p.idle = gone ++ phase.held?.toList ++ rest
  failed : ∀ e ∈ gone, p.Fails id log now e
  known : p.Known id log now rest phase
  inTime : cutOff log = []
  steps : log.length + 2 * rest.length + phase.remaining ≤ 2 * p.idle.length + 1

/-- How a request ends that was alone: it is refused at once, it fails on the way, or it gets a
connection. -/
inductive Ending (p : Pool) (id : ℕ) : Log → Pool → Outcome → Prop where
  | refused (rejected : ℕ) (e : Error) : Ending p id [] { p with rejected } (.failed e)
  | failed {log : Log} {phase : Phase} {now : ℕ} {gone rest : List Entry} {event : Event}
      (h : Underway p id log phase now gone rest)
      (hevent : event = .expire id ∨
        phase = .creating ∧ ∃ failure, event = .created id (some failure))
      (timedOut : ℕ) (e : Error) :
      Ending p id (log ++ [(phase, event)])
        { p.searched now gone rest phase.discards with timedOut } (.failed e)
  | reused {log : Log} {now : ℕ} {e : Entry} {gone rest : List Entry}
      (h : Underway p id log (.validating e) now gone rest) :
      Ending p id (log ++ [(.validating e, .validated id true)])
        { p.searched now gone rest 0 with
          free := p.free - 1, active := p.active + 1
          lent := p.lent ++ [(id, { e with lastUsed := now })] }
        (.lent e.connection)
  | opened {log : Log} {now : ℕ} {gone : List Entry}
      (h : Underway p id log .creating now gone []) :
      Ending p id (log ++ [(.creating, .created id none)])
        { p.searched now gone [] 0 with
          free := p.free - 1, active := p.active + 1, created := p.created + 1
          lent := p.lent ++ [(id, ⟨p.created, now, now⟩)] }
        (.lent p.created)

/-- How far a request has come that goes on alone: it is under way, or it has ended. -/
inductive Stage (p : Pool) (id : ℕ) (log : Log) : Pool × Result → Prop where
  | underway {phase : Phase} {now : ℕ} {gone rest : List Entry}
      (h : Underway p id log phase now gone rest) :
      Stage p id log (p.attempted id phase now gone rest, none)
  | ended {q : Pool} {outcome : Outcome} (h : Ending p id log q outcome) :
      Stage p id log (q, some (id, outcome))

variable {c : Config} {id now : ℕ} {p q : Pool} {e : Entry} {phase : Phase} {log : Log}
  {gone rest : List Entry} {event : Event} {next : Pool × Result}

/-! ## A pool in which a request is under way -/

lemma task?_attempted (hid : p.isUnused id = true) (phase : Phase) (now : ℕ)
    (gone rest : List Entry) : (p.attempted id phase now gone rest).task? id =
      some (.get (p.now + p.config.acquireTimeout) phase) :=
  task?_addTask_self (p := { p.searched now gone rest phase.discards with
    free := _, queue := _, waiting := _ }) (task?_of_isUnused hid) _

/-- Who has a permit took a free one and is not in the queue. -/
lemma attempted_of_hasPermit (hpermit : phase.hasPermit = true) :
    p.attempted id phase now gone rest =
      { p.searched now gone rest phase.discards with
        free := p.free - 1, waiting := p.waiting + 1 }.addTask id
          (.get (p.now + p.config.acquireTimeout) phase) := by
  rw [attempted, if_pos hpermit, if_pos hpermit]
  rfl

lemma attempted_queued : p.attempted id .queued now gone rest =
    { p.searched now gone rest 0 with queue := p.queue ++ [id], waiting := p.waiting + 1 }.addTask
      id (.get (p.now + p.config.acquireTimeout) .queued) := rfl

/-- A request that was told that a connection is not good discards it. -/
lemma setPhase_attempted (hid : p.isUnused id = true) (e : Entry) (now : ℕ)
    (gone rest : List Entry) :
    ({ p.attempted id (.validating e) now gone rest with
        discarded := p.discarded + gone.length + 1 } : Pool).setPhase id (.discarding e) =
      p.attempted id (.discarding e) now gone rest :=
  setPhase_addTask (p := { p.searched now gone rest 1 with
    free := p.free - 1, waiting := p.waiting + 1 }) hid _

/-- A request that has discarded a connection looks at the next one. -/
lemma search_attempted (hid : p.isUnused id = true) (e : Entry) (now : ℕ) (gone rest : List Entry) :
    ({ p.attempted id (.discarding e) now gone rest with
        closedConnections := p.closedConnections ++ gone.map Entry.connection ++ [e.connection] } :
      Pool).search id =
      p.attempted id ({ p with now, idle := rest } : Pool).nextPhase now (gone ++ [e])
        rest.tail := by
  have hpermit := Phase.hasPermit_of_isSeeking
    (isSeeking_nextPhase ({ p with now, idle := rest } : Pool))
  have hclosed : p.closedConnections ++ (gone ++ [e]).map Entry.connection =
      p.closedConnections ++ gone.map Entry.connection ++ [e.connection] := by simp
  have hcount : p.discarded + (gone ++ [e]).length = p.discarded + gone.length + 1 := by
    rw [List.length_append]
    rfl
  rw [attempted_of_hasPermit hpermit, searched, hclosed, hcount, search_eq]
  exact setPhase_addTask (p := { p with
    now, idle := rest.tail
    closedConnections := p.closedConnections ++ gone.map Entry.connection ++ [e.connection]
    discarded := p.discarded + gone.length + 1 +
      ({ p with now, idle := rest } : Pool).nextPhase.discards
    free := p.free - 1, waiting := p.waiting + 1 }) hid _

/-- A request that ends without a connection gives back what it has. -/
lemma quit_attempted (hid : p.isUnused id = true) (hqueue : id ∉ p.queue)
    (hfree : 0 < p.free → p.queue = [])
    (hpermit : phase.hasPermit = true ∧ 0 < p.free ∨ phase = .queued ∧ p.free = 0)
    (now : ℕ) (gone rest : List Entry) :
    (p.attempted id phase now gone rest).quit id phase =
      p.searched now gone rest phase.discards := by
  rcases hpermit with ⟨hpermit, hpositive⟩ | ⟨rfl, -⟩
  · have hnobody := hfree hpositive
    have hback : p.free - 1 + 1 = p.free := Nat.sub_add_cancel hpositive
    rw [attempted_of_hasPermit hpermit, quit, if_pos hpermit,
      removeTask_addTask (p := { p.searched now gone rest phase.discards with
        free := p.free - 1, waiting := p.waiting + 1 }) hid, releasePermit]
    split
    · change { p.searched now gone rest phase.discards with free := p.free - 1 + 1 } = _
      rw [hback]
      rfl
    · rename_i hqueue
      exact absurd (hnobody.symm.trans hqueue) (List.cons_ne_nil _ _).symm
  · have hothers : p.queue.filter (· ≠ id) = p.queue :=
      List.filter_eq_self.mpr fun other hother => decide_eq_true fun heq => hqueue (heq ▸ hother)
    have hleft : (p.queue ++ [id]).filter (· ≠ id) = p.queue := by
      rw [List.filter_append, hothers, List.filter_cons_of_neg (by simp), List.filter_nil,
        List.append_nil]
    rw [attempted_queued, quit, removeTask_addTask (p := { p.searched now gone rest 0 with
      queue := p.queue ++ [id], waiting := p.waiting + 1 }) hid]
    exact congrArg (fun queue => { p.searched now gone rest 0 with queue }) hleft

/-- A request that ends with a connection keeps its permit. -/
lemma lend_attempted (hid : p.isUnused id = true) (hpermit : phase.hasPermit = true) (e : Entry)
    (now : ℕ) (gone rest : List Entry) :
    (p.attempted id phase now gone rest).lend id e =
      ({ p.searched now gone rest phase.discards with
          free := p.free - 1, active := p.active + 1, lent := p.lent ++ [(id, e)] },
        some (id, .lent e.connection)) := by
  rw [attempted_of_hasPermit hpermit, lend,
    removeTask_addTask (p := { p.searched now gone rest phase.discards with
      free := p.free - 1, waiting := p.waiting + 1 }) hid]
  rfl

/-! ## How a request goes on -/

lemma Fails.mono {log' : Log} {now' : ℕ} (h : p.Fails id log now e) (hlog : log ⊆ log')
    (hnow : now ≤ now') : p.Fails id log' now' e :=
  h.imp (fun ⟨time, hbegun, htime, hworn⟩ => ⟨time, hbegun, htime.trans hnow, hworn⟩) (@hlog _)

lemma cutOff_append (log log' : Log) : cutOff (log ++ log') = cutOff log ++ cutOff log' :=
  List.filterMap_append

lemma awaits_cases (h : phase.awaits id event = true) :
    (phase = .queued ∨ phase = .granted) ∧ event = .proceed id ∨
      (∃ e good, phase = .validating e ∧ event = .validated id good) ∨
      (∃ e, phase = .discarding e ∧ event = .discarded id) ∨
      phase = .creating ∧ ∃ failure, event = .created id failure := by
  rw [Phase.awaits.eq_def] at h
  split at h
  · cases of_decide_eq_true h
    exact .inl ⟨.inl rfl, rfl⟩
  · cases of_decide_eq_true h
    exact .inl ⟨.inr rfl, rfl⟩
  · cases of_decide_eq_true h
    exact .inr (.inl ⟨_, _, rfl, rfl⟩)
  · cases of_decide_eq_true h
    exact .inr (.inr (.inl ⟨_, rfl, rfl⟩))
  · cases of_decide_eq_true h
    exact .inr (.inr (.inr ⟨rfl, _, rfl⟩))
  · cases h

namespace Underway

/-- A request that looks at the next idle connection. -/
lemma look (hlater : p.now ≤ now) (hopen : p.isClosed = false) (hfree : 0 < p.free)
    (hidle : p.idle = gone ++ rest) (hfailed : ∀ e ∈ gone, p.Fails id log now e)
    (htime : cutOff log = [])
    (hsteps : log.length + 2 * rest.length ≤ 2 * p.idle.length) :
    Underway p id log ({ p with now, idle := rest } : Pool).nextPhase now gone rest.tail := by
  have hseeking := isSeeking_nextPhase { p with now, idle := rest }
  have hpermit := Phase.hasPermit_of_isSeeking hseeking
  have hheld : ({ p with now, idle := rest } : Pool).nextPhase.held? = rest.head? :=
    held?_nextPhase _
  refine ⟨hlater, hopen, .inl ⟨hpermit, hfree⟩, ?_, hfailed, ?_, htime, ?_⟩
  · rw [hheld, List.append_assoc, hidle]
    cases rest <;> rfl
  · cases rest with
    | nil => exact rfl
    | cons e rest =>
      rw [nextPhase]
      dsimp only
      split
      · rename_i hworn
        exact .inl ⟨now, hlater, le_rfl, hworn⟩
      · rename_i hfit
        exact ⟨now, hlater, le_rfl, eq_false_of_ne_true hfit⟩
  · cases rest with
    | nil =>
      change _ + 0 + 1 ≤ _
      exact Nat.succ_le_succ hsteps
    | cons e rest =>
      have hle := ({ p with now, idle := e :: rest } : Pool).nextPhase.remaining_le
      rw [List.length_cons] at hsteps
      rw [List.tail_cons]
      omega

lemma mono {now' : ℕ} (h : Underway p id log phase now gone rest) (hnow : now ≤ now') :
    Underway p id log phase now' gone rest where
  later := h.later.trans hnow
  isOpen := h.isOpen
  permit := h.permit
  idle := h.idle
  failed e he := (h.failed e he).mono (List.Subset.refl log) hnow
  known := by
    have hknown := h.known
    cases phase with
    | queued => exact hknown
    | granted => exact hknown
    | validating e =>
      obtain ⟨time, hbegun, htime, hfit⟩ := hknown
      exact ⟨time, hbegun, htime.trans hnow, hfit⟩
    | discarding e => exact Fails.mono hknown (List.Subset.refl log) hnow
    | creating => exact hknown
  inTime := h.inTime
  steps := h.steps

lemma free_pos (h : Underway p id log phase now gone rest) (hpermit : phase.hasPermit = true) :
    0 < p.free := by
  rcases h.permit with ⟨-, hfree⟩ | ⟨rfl, -⟩
  · exact hfree
  · cases hpermit

/-- A request that is alone and found a free permit looks for a connection. -/
lemma isSeeking (h : Underway p id log phase now gone rest) (hfree : 0 < p.free) :
    phase.isSeeking = true := by
  have hknown := h.known
  rcases h.permit with ⟨hpermit, -⟩ | ⟨-, hnone⟩
  · cases phase with
    | queued => cases hpermit
    | granted => exact hknown.elim
    | validating e => rfl
    | discarding e => rfl
    | creating => rfl
  · omega

lemma failed_append (h : Underway p id log phase now gone rest) (u : Phase × Event) :
    ∀ e ∈ gone, p.Fails id (log ++ [u]) now e := fun e he =>
  (h.failed e he).mono (List.subset_append_left log [u]) le_rfl

lemma cutOff_concat (h : Underway p id log phase now gone rest) (u : Phase × Event) :
    cutOff (log ++ [u]) = cutOff [u] := by
  rw [cutOff_append, h.inTime, List.nil_append]

section Events

variable (hid : p.isUnused id = true)
include hid

/-- The verdict on a connection is there. -/
lemma validated (h : Underway p id log (.validating e) now gone rest) (good : Bool)
    (hstep : (p.attempted id (.validating e) now gone rest).step (.validated id good) =
      some next) : Stage p id (log ++ [(.validating e, .validated id good)]) next := by
  have hfree := h.free_pos rfl
  rw [Pool.step, task?_attempted hid] at hstep
  cases good with
  | true =>
    change some ((p.attempted id (.validating e) now gone rest).lend id
      { e with lastUsed := now }) = some next at hstep
    rw [lend_attempted hid rfl] at hstep
    cases hstep
    exact .ended (.reused h)
  | false =>
    have hsteps : log.length + 2 * rest.length + 3 ≤ _ := h.steps
    have hunderway : Underway p id (log ++ [(.validating e, .validated id false)]) (.discarding e)
        now gone rest := by
      refine ⟨h.later, h.isOpen, .inl ⟨rfl, hfree⟩, h.idle, h.failed_append _,
        .inr (List.mem_append_right log (List.mem_singleton_self _)), h.cutOff_concat _, ?_⟩
      rw [List.length_append, List.length_singleton]
      change _ + 2 ≤ _
      omega
    cases hstep
    exact (congrArg (fun q => Stage p id _ (q, none)) (setPhase_attempted hid e now gone rest)).mpr
      (.underway hunderway)

/-- A connection that failed is closed, and the next one is looked at. -/
lemma discarded (h : Underway p id log (.discarding e) now gone rest)
    (hstep : (p.attempted id (.discarding e) now gone rest).step (.discarded id) = some next) :
    Stage p id (log ++ [(.discarding e, .discarded id)]) next := by
  have hsteps : log.length + 2 * rest.length + 2 ≤ _ := h.steps
  have hknown : p.Fails id log now e := h.known
  have hlook : Underway p id (log ++ [(.discarding e, .discarded id)])
      ({ p with now, idle := rest } : Pool).nextPhase now (gone ++ [e]) rest.tail := by
    refine look h.later h.isOpen (h.free_pos rfl) h.idle (fun x hx => ?_) (h.cutOff_concat _) ?_
    · rcases List.mem_append.mp hx with hx | hx
      · exact h.failed_append _ x hx
      · rw [List.mem_singleton.mp hx]
        exact hknown.mono (List.subset_append_left _ _) le_rfl
    · rw [List.length_append, List.length_singleton]
      omega
  rw [Pool.step, task?_attempted hid] at hstep
  cases hstep
  exact (congrArg (fun q => Stage p id _ (q, none)) (search_attempted hid e now gone rest)).mpr
    (.underway hlook)

/-- The opening of a connection has ended. -/
lemma created (h : Underway p id log .creating now gone rest) (hqueue : id ∉ p.queue)
    (hfree : 0 < p.free → p.queue = []) (failure : Option Error)
    (hstep : (p.attempted id .creating now gone rest).step (.created id failure) = some next) :
    Stage p id (log ++ [(.creating, .created id failure)]) next := by
  rw [Pool.step, task?_attempted hid] at hstep
  cases failure with
  | some e =>
    have hquit := quit_attempted hid hqueue hfree h.permit now gone rest
    cases hstep
    rw [hquit]
    exact .ended (.failed h (.inr ⟨rfl, e, rfl⟩) p.timedOut e)
  | none =>
    obtain rfl : rest = [] := h.known
    change some ((Pool.attempted { p with created := p.created + 1 } id .creating now gone []).lend
      id ⟨p.created, now, now⟩) = some next at hstep
    rw [lend_attempted (p := { p with created := p.created + 1 }) hid rfl] at hstep
    cases hstep
    exact .ended (.opened h)

/-- The time of a request is over. -/
lemma expired (h : Underway p id log phase now gone rest) (hqueue : id ∉ p.queue)
    (hfree : 0 < p.free → p.queue = [])
    (hstep : (p.attempted id phase now gone rest).step (.expire id) = some next) :
    Stage p id (log ++ [(phase, .expire id)]) next := by
  rw [Pool.step, task?_attempted hid] at hstep
  dsimp only at hstep
  split at hstep
  · rw [quit_attempted hid hqueue hfree h.permit] at hstep
    cases hstep
    exact .ended (.failed h (.inl rfl) _ _)
  · cases hstep

/-- What a request waits for, or its deadline, leads it on. -/
lemma step (h : Underway p id log phase now gone rest) (hqueue : id ∉ p.queue)
    (hfree : 0 < p.free → p.queue = [])
    (hevent : phase.awaits id event = true ∨ event = .expire id)
    (hstep : (p.attempted id phase now gone rest).step event = some next) :
    Stage p id (log ++ [(phase, event)]) next := by
  rcases hevent with hevent | rfl
  · rcases awaits_cases hevent with ⟨rfl | rfl, rfl⟩ | ⟨e, good, rfl, rfl⟩ | ⟨e, rfl, rfl⟩ |
      ⟨rfl, failure, rfl⟩
    · -- Who waits for a permit goes on alone only if the pool is closed.
      rw [Pool.step, task?_attempted hid] at hstep
      have hnone := hstep.symm.trans (if_neg (ne_true_of_eq_false h.isOpen))
      exact absurd hnone (Option.some_ne_none next)
    · exact h.known.elim
    · exact h.validated hid good hstep
    · exact h.discarded hid hstep
    · exact h.created hid hqueue hfree failure hstep
  · exact h.expired hid hqueue hfree hstep

end Events

end Underway

lemma attempted_nil (id : ℕ) (phase : Phase) (rest : List Entry) :
    p.attempted id phase p.now [] rest = { p with
      idle := rest
      discarded := p.discarded + phase.discards
      free := if phase.hasPermit then p.free - 1 else p.free
      queue := if phase.hasPermit then p.queue else p.queue ++ [id]
      waiting := p.waiting + 1 }.addTask id (.get (p.now + p.config.acquireTimeout) phase) := by
  rw [attempted, searched, List.map_nil, List.append_nil]
  rfl

/-- A request is refused, waits for a permit, or looks at the first idle connection. -/
lemma stage_startGet (hid : p.isUnused id = true) : Stage p id [] (p.startGet id) := by
  cases hclosed : p.isClosed with
  | true =>
    rw [startGet, if_pos hclosed]
    exact .ended (.refused p.rejected _)
  | false =>
    cases hfree : p.free with
    | zero =>
      rw [startGet_of_no_permit hclosed hfree]
      split
      · exact .ended (.refused _ _)
      · have hunderway : Underway p id [] .queued p.now [] p.idle :=
          ⟨le_rfl, hclosed, .inr ⟨rfl, hfree⟩, rfl, List.forall_mem_nil _, trivial, rfl,
            (Nat.succ_le_succ (Nat.zero_add _).le)⟩
        have hbegun := Stage.underway hunderway
        rw [attempted_nil] at hbegun
        exact hbegun
    | succ free =>
      rw [startGet_of_free hid hclosed hfree]
      have hpermit := Phase.hasPermit_of_isSeeking (isSeeking_nextPhase p)
      have hlook : Underway p id [] p.nextPhase p.now [] p.idle.tail :=
        Underway.look le_rfl hclosed (hfree ▸ Nat.succ_pos free) rfl (List.forall_mem_nil _) rfl
          (Nat.zero_add _).le
      have hbegun := Stage.underway hlook
      rw [attempted_nil, if_pos hpermit, if_pos hpermit, hfree] at hbegun
      exact hbegun

lemma Attempt.isUnused (h : Attempt p id log next) : p.isUnused id = true := by
  induction h with
  | begun hid => exact hid
  | wentOn h ht hevent hstep ih => exact ih
  | waited h ms ih => exact ih

/-- What becomes of a request is a history of the pool. -/
lemma Attempt.exists_after (h : Attempt p id log next) :
    ∃ events, p.after events = some next.1 := by
  induction h with
  | begun hid => exact ⟨[.callGet id], after_cons_of_step (e := .callGet id) hid rfl []⟩
  | wentOn h ht hevent hstep ih =>
    rename_i log q deadline phase event next
    obtain ⟨events, hafter⟩ := ih
    have hadmits : q.admits event = true := by
      rcases hevent with hevent | rfl
      · rcases awaits_cases hevent with ⟨-, rfl⟩ | ⟨e, good, -, rfl⟩ | ⟨e, -, rfl⟩ | ⟨-, _, rfl⟩ <;>
          rfl
      · rfl
    exact ⟨events ++ [event], (after_append hafter _).trans (after_cons_of_step hadmits hstep [])⟩
  | waited h ms ih =>
    obtain ⟨events, hafter⟩ := ih
    exact ⟨events ++ [.pass ms], after_append hafter _⟩

/-- Whatever becomes of a request that is alone, it is known how far it has come. -/
lemma Attempt.stage (h : Attempt p id log next) (haccounts : Accounts c 0 p)
    (hlined : Lined c p) : Stage p id log next := by
  have hid := h.isUnused
  have hqueue : id ∉ p.queue := fun hmem => by
    obtain ⟨deadline, ht⟩ := haccounts.queued id hmem
    rw [task?_of_isUnused hid] at ht
    cases ht
  induction h with
  | begun hid => exact stage_startGet hid
  | wentOn h ht hevent hstep ih =>
    cases ih with
    | underway hunderway =>
      cases (task?_attempted hid _ _ _ _).symm.trans ht
      exact hunderway.step hid hqueue hlined.free hevent hstep
  | waited h ms ih =>
    cases ih with
    | underway hunderway => exact .underway (hunderway.mono (Nat.le_add_right _ ms))

/-- A request that is alone does not go on forever: two events for every idle connection, and one
more, are the most that it takes. -/
lemma Stage.length_le (h : Stage p id log next) : log.length ≤ 2 * p.idle.length + 1 := by
  have hlast : ∀ {log phase now gone rest} (u : Phase × Event),
      Underway p id log phase now gone rest → (log ++ [u]).length ≤ 2 * p.idle.length + 1 := by
    intro log phase now gone rest u hunderway
    have hsteps := hunderway.steps
    have hpos := phase.remaining_pos
    rw [List.length_append, List.length_singleton]
    omega
  cases h with
  | underway hunderway =>
    have hsteps := hunderway.steps
    omega
  | ended hending =>
    cases hending with
    | refused => exact Nat.zero_le _
    | failed hunderway => exact hlast _ hunderway
    | reused hunderway => exact hlast _ hunderway
    | opened hunderway => exact hlast _ hunderway

/-! ## How a request fails -/

/-- The connections that a request has just counted, in this phase. -/
def Phase.counted : Phase → List Entry
  | discarding e => [e]
  | _ => []

lemma Phase.length_counted (phase : Phase) : phase.counted.length = phase.discards := by
  cases phase <;> rfl

lemma Phase.eq_of_mem_counted (h : e ∈ phase.counted) : phase = .discarding e := by
  cases phase with
  | discarding x => rw [List.mem_singleton.mp h]
  | _ => cases h

lemma eq_of_mem_cutOff (h : e ∈ cutOff [(phase, .expire id)]) : phase = .validating e := by
  cases phase with
  | validating x => rw [List.mem_singleton.mp h]
  | _ => cases h

/-- A connection that a request holds when its time is over was counted, or it is cut off. -/
lemma held?_of_expire (phase : Phase) (id : ℕ) :
    phase.held?.toList = phase.counted ++ cutOff [(phase, .expire id)] := by
  cases phase <;> rfl

/-- A request that fails gives everything back but the connections that it counted, and the one on
which the verdict was still out. -/
lemma Ending.of_failed {failure : Error} (h : Ending p id log q (.failed failure)) :
    ∃ now counted rest closed timedOut rejected,
      p.idle = counted ++ cutOff log ++ rest ∧ (∀ e ∈ counted, p.Fails id log now e) ∧
      (∀ e ∈ cutOff log, ∃ time, p.now ≤ time ∧ time ≤ now ∧ p.isWornAt time e = false) ∧
      q = { p with
        now, timedOut, rejected, idle := rest
        closedConnections := p.closedConnections ++ closed
        discarded := p.discarded + counted.length } := by
  cases h with
  | refused rejected =>
    refine ⟨p.now, [], p.idle, [], p.timedOut, rejected, rfl, nofun, nofun, ?_⟩
    rw [List.append_nil]
    rfl
  | failed h hevent timedOut =>
    rename_i log phase now gone rest event
    have hcutOff : cutOff (log ++ [(phase, event)]) = cutOff [(phase, .expire id)] := by
      rw [h.cutOff_concat]
      rcases hevent with rfl | ⟨rfl, failure, rfl⟩ <;> rfl
    refine ⟨now, gone ++ phase.counted, rest, gone.map Entry.connection, timedOut, p.rejected, ?_,
      ?_, ?_, ?_⟩
    · rw [h.idle, held?_of_expire phase id, hcutOff]
      simp only [List.append_assoc]
    · intro e he
      rcases List.mem_append.mp he with he | he
      · exact h.failed_append _ e he
      · obtain rfl := Phase.eq_of_mem_counted he
        have hknown : p.Fails id log now e := h.known
        exact hknown.mono (List.subset_append_left _ _) le_rfl
    · intro e he
      rw [hcutOff] at he
      obtain rfl := eq_of_mem_cutOff he
      exact h.known
    · rw [List.length_append, phase.length_counted, ← Nat.add_assoc]
      rfl

/-- A request that fails, refused, too late or without a new connection, while it is the only call
to go on, leaves the permits, the queue, the calls under way, what is lent and what is counted about
them as they were.  The idle connections that it took from the front failed a check and were
counted, and the others stay in order; but if its time was over when the verdict on a connection was
still out, then this connection, which had passed the other checks, is gone too: it was not counted
and nobody has it any more.  So the idle connections have lost only what was counted exactly if no
verdict was cut off. -/
theorem failed_request_restores_iff (c : Config) (now : ℕ) (events : List Event) (p q : Pool)
    (h : (Pool.new c now).after events = some p) (id : ℕ) (log : Log) (failure : Error)
    (hattempt : Attempt p id log (q, some (id, .failed failure))) :
    (q.free = p.free ∧ q.active = p.active ∧ q.waiting = p.waiting ∧ q.queue = p.queue ∧
      q.tasks = p.tasks ∧ q.lent = p.lent ∧ q.isClosed = p.isClosed ∧ q.created = p.created) ∧
    (∃ counted, p.idle = counted ++ cutOff log ++ q.idle ∧
      q.discarded = p.discarded + counted.length ∧ ∀ e ∈ counted, p.Fails id log q.now e) ∧
    (∀ e ∈ cutOff log, q.IsGone e.connection ∧
      ∃ time, p.now ≤ time ∧ time ≤ q.now ∧ p.isWornAt time e = false) ∧
    ((∃ counted, p.idle = counted ++ q.idle ∧ q.discarded = p.discarded + counted.length) ↔
      cutOff log = []) := by
  have haccounts := accounts_after (accounts_new c now) h
  have hlined := lined_after (lined_new c now) (accounts_new c now) h
  cases hattempt.stage haccounts hlined with
  | ended hending =>
    obtain ⟨now, counted, rest, closed, timedOut, rejected, hidle, hfailed, hfit, rfl⟩ :=
      hending.of_failed
    refine ⟨⟨rfl, rfl, rfl, rfl, rfl, rfl, rfl, rfl⟩, ⟨counted, hidle, rfl, hfailed⟩,
      fun e he => ⟨?_, hfit e he⟩, ?_, fun hnone => ⟨counted, ?_, rfl⟩⟩
    · refine isGone_of_taken haccounts he ?_ le_rfl
      rw [places_eq, places_eq, hidle, List.countP_append, List.countP_append]
      change rest.countP _ + p.tally _ + p.lent.countP _ + _ ≤ _
      omega
    -- As many were counted as are gone from the idle ones, so nothing is left for the cut off one.
    · rintro ⟨counted', hidle', hcount⟩
      have hlength := congrArg List.length (hidle.symm.trans hidle')
      simp only [List.length_append] at hlength
      change p.discarded + counted.length = _ at hcount
      exact List.length_eq_zero_iff.mp (by omega)
    · rw [hidle, hnone, List.append_nil]

/-- Of two idle connections the first has been idle for too long and is discarded; the verdict on
the second is still out when the time of the request is over. -/
theorem failed_request_restores_first :
    let c : Config := { minSize := 2, maxSize := 2, acquireTimeout := 1, idleTimeout := 4 }
    let events : List Event := [.callOpen 0, .created 0 none, .pass 3, .created 0 none, .pass 2]
    let log : Log := [(.discarding ⟨0, 0, 0⟩, .discarded 1), (.validating ⟨1, 3, 3⟩, .expire 1)]
    let p : Pool := { Pool.new c 5 with idle := [⟨0, 0, 0⟩, ⟨1, 3, 3⟩], created := 2 }
    let q : Pool := { p with
      now := 6, idle := [], closedConnections := [0], discarded := 1, timedOut := 1 }
    (Pool.new c 0).after events = some p ∧
      Attempt p 1 log (q, some (1, .failed (.timedOut "1ms"))) ∧ q.free = p.free ∧
      (∃ counted, p.idle = counted ++ cutOff log ++ q.idle ∧
        q.discarded = p.discarded + counted.length ∧ ∀ e ∈ counted, p.Fails 1 log q.now e) ∧
      q.IsGone 1 ∧
      ¬∃ counted, p.idle = counted ++ q.idle ∧ q.discarded = p.discarded + counted.length := by
  intro c events log p q
  have hafter : (Pool.new c 0).after events = some p := rfl
  have hbegun : Attempt p 1 [] (p.startGet 1) := .begun rfl
  have hlooked : Attempt p 1 [(.discarding ⟨0, 0, 0⟩, .discarded 1)] _ :=
    hbegun.wentOn rfl (.inl rfl) rfl
  have hattempt : Attempt p 1 log (q, some (1, .failed (.timedOut "1ms"))) :=
    (hlooked.waited 1).wentOn rfl (.inr rfl) (by decide +kernel)
  obtain ⟨⟨hfree, -⟩, hcounted, hlost, hiff⟩ :=
    failed_request_restores_iff c 0 events p q hafter 1 log _ hattempt
  have hgone := (hlost ⟨1, 3, 3⟩ (List.mem_singleton_self _)).1
  exact ⟨hafter, hattempt, hfree, hcounted, hgone, hiff.not.mpr (List.cons_ne_nil _ _)⟩

/-- The only connection is lost while the verdict on it is out, and nothing is counted. -/
theorem cut_off_uncounted :
    let c : Config := { minSize := 1, maxSize := 1 }
    let p : Pool := { Pool.new c 0 with idle := [⟨0, 0, 0⟩], created := 1 }
    let q : Pool := { p with now := 30000, idle := [], timedOut := 1 }
    (Pool.new c 0).after [.callOpen 0, .created 0 none] = some p ∧
      Attempt p 1 [(.validating ⟨0, 0, 0⟩, .expire 1)]
        (q, some (1, .failed (.timedOut "30s"))) ∧
      q.discarded = p.discarded ∧ q.dropped = [0] := by
  intro c p q
  have hbegun : Attempt p 1 [] (p.startGet 1) := .begun rfl
  have hwaited := hbegun.waited 30000
  refine ⟨rfl, hwaited.wentOn rfl (.inr rfl) (by decide +kernel), rfl, ?_⟩
  decide

end BulkValues.Pool
