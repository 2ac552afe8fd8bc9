/-
# What happens on a PostgreSQL connection

The calls of a connection are those that wait for the client and those that act: the latter may
send a command or wait for the answer to one.  What an event does is said once, as a relation
between the sessions before and after it, and what follows from it about the queue and the log
comes from the small lemmas beside the operations.
-/
import BulkValues.Postgres.Session
import Mathlib.Data.List.Nodup
import Mathlib.Data.Nat.Notation
import Mathlib.Tactic.Lemma

namespace BulkValues.Postgres

/-- Whether a task sends a command at some point. -/
inductive Task.Sends (t : Task) : Command → Prop
  | first : t.Sends t.firstCommand
  /-- A statement is run when it was prepared. -/
  | next (prepared sql : String) (first : t.firstCommand = .prepare prepared) : t.Sends (.run sql)

namespace Task

variable {t : Task} {id transaction : ℕ} {sql : String}

lemma eq_start_of_sends (h : t.Sends .start) : t = .start := by
  cases t with
  | start => rfl
  | _ => cases h

lemma firstCommand_of_sends_prepare (h : t.Sends (.prepare sql)) :
    t.firstCommand = .prepare sql := by
  generalize hc : Command.prepare sql = c at h
  cases h with
  | first => rfl
  | next prepared sql' first => cases hc

/-- The end of a transaction is one command. -/
lemma firstCommand_of_isEnd (h : t.isEnd = true) :
    t.firstCommand = .commit ∨ t.firstCommand = .rollback := by
  cases t with
  | commit _ => exact .inl rfl
  | rollback _ => exact .inr rfl
  | unwind _ => exact .inr rfl
  | _ => cases h

/-- A task that belongs to a transaction is a statement in it or its end. -/
lemma eq_inside_of_not_isEnd (h : t.transaction? = some transaction) (hend : t.isEnd = false) :
    ∃ fetch sql, t = .inside transaction fetch sql := by
  cases t with
  | inside transaction' fetch sql =>
    cases h
    exact ⟨fetch, sql, rfl⟩
  | commit _ => cases hend
  | rollback _ => cases hend
  | unwind _ => cases hend
  | _ => cases h

lemma owner_of_transaction (h : t.transaction? = some transaction) :
    t.owner id = .transaction transaction := by
  cases t with
  | direct fetch sql => cases h
  | start => cases h
  | _ =>
    cases h
    rfl

/-- Outside of a transaction a task is a statement that is run directly or the beginning of
one. -/
lemma direct_or_start (h : t.transaction? = none) :
    (∃ fetch sql, t = .direct fetch sql) ∨ t = .start := by
  cases t with
  | direct fetch sql => exact .inl ⟨fetch, sql, rfl⟩
  | start => exact .inr rfl
  | _ => cases h

end Task

namespace Session

/-! ## Calls -/

/-- Whether a call waits for the client. -/
def isWaiting (c : ℕ × Task × Phase) : Bool := c.2.2 = .waiting

/-- The calls that wait for the client. -/
def queued (s : Session) : List (ℕ × Task × Phase) := s.calls.filter isWaiting

/-- The calls that act. -/
def acting (s : Session) : List (ℕ × Task × Phase) := s.calls.filter (!isWaiting ·)

/-- The calls without one of them. -/
def without (s : Session) (id : ℕ) : Session :=
  { s with calls := s.calls.filter fun c => c.1 ≠ id }

/-- A call ends and leaves its client to the next call, unless its transaction goes on. -/
def leave (s : Session) (id : ℕ) (task : Task) : Session :=
  if task.transaction?.isSome && !task.isEnd then s.without id else (s.without id).release

variable {s s' : Session} {id : ℕ} {task : Task} {phase : Phase} {c : ℕ × Task × Phase}

lemma mem_acting : c ∈ s.acting ↔ c ∈ s.calls ∧ c.2.2 ≠ .waiting := by
  simp [acting, isWaiting]

lemma mem_queued : c ∈ s.queued ↔ c ∈ s.calls ∧ c.2.2 = .waiting := by
  simp [queued, isWaiting]

lemma mem_calls_of_call? (h : s.call? id = some (task, phase)) : (id, task, phase) ∈ s.calls := by
  obtain ⟨before, after, hcalls, -⟩ := List.lookup_eq_some_iff.mp h
  rw [hcalls]
  simp

lemma mem_acting_of_call? (h : s.call? id = some (task, phase)) (hphase : phase ≠ .waiting) :
    (id, task, phase) ∈ s.acting :=
  mem_acting.mpr ⟨mem_calls_of_call? h, hphase⟩

/-- A call that is under way is found under its number. -/
lemma call?_of_mem (hunique : (s.calls.map Prod.fst).Nodup) (h : (id, task, phase) ∈ s.calls) :
    s.call? id = some (task, phase) := by
  obtain ⟨before, after, hcalls⟩ := List.append_of_mem h
  rw [hcalls, List.map_append, List.map_cons, List.nodup_middle, List.nodup_cons,
    ← List.map_append, List.mem_map] at hunique
  refine List.lookup_eq_some_iff.mpr ⟨before, after, hcalls, fun c hc => ?_⟩
  have hne : c.1 ≠ id := fun heq => hunique.1 ⟨c, List.mem_append_left _ hc, heq⟩
  simpa using hne.symm

lemma forall_ne_of_call?_none (h : s.call? id = none) : ∀ c ∈ s.calls, c.1 ≠ id := by
  intro c hc heq
  have := List.lookup_eq_none_iff.mp h c hc
  simp [heq] at this

/-! ## Operations -/

section Operations

variable (s : Session) (id : ℕ) (task : Task) (phase : Phase)

@[simp] lemma holder_setPhase : (s.setPhase id task phase).holder = s.holder := rfl

@[simp] lemma waiters_setPhase : (s.setPhase id task phase).waiters = s.waiters := rfl

@[simp] lemma alive_setPhase : (s.setPhase id task phase).alive = s.alive := rfl

@[simp] lemma begun_setPhase : (s.setPhase id task phase).begun = s.begun := rfl

@[simp] lemma log_setPhase : (s.setPhase id task phase).log = s.log := rfl

@[simp] lemma isClosed_setPhase : (s.setPhase id task phase).isClosed = s.isClosed := rfl

@[simp] lemma acting_without : (s.without id).acting = s.acting.filter fun c => c.1 ≠ id :=
  List.filter_comm ..

@[simp] lemma queued_without : (s.without id).queued = s.queued.filter fun c => c.1 ≠ id :=
  List.filter_comm ..

@[simp] lemma alive_release : s.release.alive = s.alive := by
  rw [release]
  split
  · rfl
  · split <;> rfl

@[simp] lemma begun_release : s.release.begun = s.begun := by
  rw [release]
  split
  · rfl
  · split <;> rfl

@[simp] lemma log_release : s.release.log = s.log := by
  rw [release]
  split
  · rfl
  · split <;> rfl

@[simp] lemma isClosed_release : s.release.isClosed = s.isClosed := by
  rw [release]
  split
  · rfl
  · split <;> rfl

@[simp] lemma alive_leave : (s.leave id task).alive = s.alive := by
  rw [leave]
  split
  · rfl
  · rw [alive_release, without]

@[simp] lemma begun_leave : (s.leave id task).begun = s.begun := by
  rw [leave]
  split
  · rfl
  · rw [begun_release, without]

@[simp] lemma log_leave : (s.leave id task).log = s.log := by
  rw [leave]
  split
  · rfl
  · rw [log_release, without]

@[simp] lemma isClosed_leave : (s.leave id task).isClosed = s.isClosed := by
  rw [leave]
  split
  · rfl
  · rw [isClosed_release, without]

end Operations

/-- Finishing a call that does not keep the client. -/
lemma finish_eq_leave (reply : Reply) : (s.finish id task false reply).1 = s.leave id task := by
  rw [finish, leave, Bool.false_or]
  rfl

lemma calls_setPhase : (s.setPhase id task phase).calls =
    s.calls.filter (fun c => c.1 ≠ id) ++ [(id, task, phase)] := rfl

lemma acting_setPhase (hphase : phase ≠ .waiting) : (s.setPhase id task phase).acting =
    s.acting.filter (fun c => c.1 ≠ id) ++ [(id, task, phase)] := by
  rw [acting, calls_setPhase, List.filter_append, List.filter_comm, ← acting]
  simp [isWaiting, hphase]

lemma acting_ready : (s.setPhase id task .ready).acting =
    s.acting.filter (fun c => c.1 ≠ id) ++ [(id, task, .ready)] := acting_setPhase nofun

lemma acting_sent {command : Command} : (s.setPhase id task (.sent command)).acting =
    s.acting.filter (fun c => c.1 ≠ id) ++ [(id, task, .sent command)] := acting_setPhase nofun

lemma queued_setPhase (hphase : phase ≠ .waiting) : (s.setPhase id task phase).queued =
    s.queued.filter (fun c => c.1 ≠ id) := by
  rw [queued, calls_setPhase, List.filter_append, List.filter_comm, ← queued]
  simp [isWaiting, hphase]

lemma acting_setPhase_waiting : (s.setPhase id task .waiting).acting =
    s.acting.filter fun c => c.1 ≠ id := by
  rw [acting, calls_setPhase, List.filter_append, List.filter_comm, ← acting]
  simp [isWaiting]

lemma queued_setPhase_waiting : (s.setPhase id task .waiting).queued =
    s.queued.filter (fun c => c.1 ≠ id) ++ [(id, task, .waiting)] := by
  rw [queued, calls_setPhase, List.filter_append, List.filter_comm, ← queued]
  simp [isWaiting]

/-! ## Events -/

/-- What an event does to a session. -/
inductive Move (s : Session) : Session → Prop
  /-- A call was refused. -/
  | refused : Move s s
  | closed : Move s { s with isClosed := true }
  /-- A call that does not belong to a transaction gets the client at once. -/
  | admitted (id : ℕ) (task : Task) (new : s.call? id = none)
      (outside : task.transaction? = none) (unused : id ∉ s.begun) (free : s.holder = none) :
      Move s (setPhase { s with holder := some (task.owner id) } id task .ready)
  /-- It waits for the client. -/
  | delayed (id : ℕ) (task : Task) (new : s.call? id = none)
      (outside : task.transaction? = none) (unused : id ∉ s.begun) :
      Move s (setPhase { s with waiters := s.waiters ++ [id] } id task .waiting)
  /-- A statement is to be run in a transaction. -/
  | joined (id transaction : ℕ) (fetch : Bool) (sql : String) (new : s.call? id = none)
      (used : transaction ∈ s.alive) :
      Move s (s.setPhase id (.inside transaction fetch sql) .ready)
  /-- A transaction is to be ended. -/
  | parted (id transaction : ℕ) (task : Task) (new : s.call? id = none)
      (inside : task.transaction? = some transaction) (isEnd : task.isEnd = true)
      (used : transaction ∈ s.alive) (idle : s.isBusy transaction = false) :
      Move s (setPhase { s with alive := s.alive.erase transaction } id task .ready)
  /-- A call sends its next command. -/
  | sent (id : ℕ) (task : Task) (phase : Phase) (command : Command)
      (found : s.call? id = some (task, phase))
      (next : phase = .ready ∧ command = task.firstCommand ∨
        ∃ sql, phase = .sent (.prepare sql) ∧ command = .run sql)
      (open_ : s.isClosed = false) :
      Move s (setPhase { s with log := s.log ++ [(task.owner id, command)] } id task
        (.sent command))
  /-- A transaction has begun. -/
  | began (id : ℕ) (task : Task) (found : s.call? id = some (task, .sent .start)) :
      Move s (without { s with alive := id :: s.alive, begun := id :: s.begun } id)
  /-- A call ends. On a closed connection it may not have sent its command. -/
  | left (id : ℕ) (task : Task) (phase : Phase) (found : s.call? id = some (task, phase))
      (acts : phase = .ready ∧ s.isClosed = true ∨ ∃ command, phase = .sent command) :
      Move s (s.leave id task)

lemma move_of_startCall {result : SessionResult}
    (h : s.startCall id task = some (s', result)) : Move s s' := by
  rw [startCall] at h
  by_cases hnew : (s.call? id).isSome = true
  · rw [if_pos hnew] at h
    cases h
  rw [if_neg hnew] at h
  have hnone : s.call? id = none := by simpa using hnew
  rcases htransaction : task.transaction? with _ | t
  · simp only [htransaction] at h
    split at h
    · cases h
    rename_i hunused
    split at h
    · cases h
      exact .refused
    split at h
    · rename_i hfree
      cases h
      exact .admitted id task hnone htransaction hunused (by simpa using hfree)
    · cases h
      exact .delayed id task hnone htransaction hunused
  · simp only [htransaction] at h
    split at h
    · cases h
    rename_i hadmits
    rw [not_or, not_and, Decidable.not_not] at hadmits
    obtain ⟨hused, hidle⟩ := hadmits
    cases h
    cases hend : task.isEnd with
    | false =>
      obtain ⟨fetch, sql, rfl⟩ := Task.eq_inside_of_not_isEnd htransaction hend
      exact .joined id t fetch sql hnone hused
    | true => exact .parted id t task hnone htransaction hend hused (by simpa using hidle hend)

/-- A command is sent, or the call ends because the connection was closed. -/
lemma move_of_send {command : Command} (found : s.call? id = some (task, phase))
    (next : phase = .ready ∧ command = task.firstCommand ∨
      ∃ sql, phase = .sent (.prepare sql) ∧ command = .run sql) :
    Move s (s.send id task command).1 := by
  rw [send]
  cases hclosed : s.isClosed with
  | false =>
    rw [if_neg Bool.false_ne_true]
    exact hclosed ▸ .sent id task phase command found next hclosed
  | true =>
    rw [if_pos rfl, finish_eq_leave]
    refine .left id task phase found ?_
    rcases next with ⟨hphase, -⟩ | ⟨sql, hphase, -⟩
    · exact .inl ⟨hphase, hclosed⟩
    · exact .inr ⟨_, hphase⟩

/-- A call that waits for an answer ends, whatever it comes to. -/
lemma move_of_finish {command : Command} {reply : Reply}
    (found : s.call? id = some (task, .sent command)) :
    Move s (s.finish id task false reply).1 := by
  rw [finish_eq_leave]
  exact .left id task _ found (.inr ⟨_, rfl⟩)

lemma move_of_succeed {command : Command} (found : s.call? id = some (task, .sent command)) :
    Move s (s.succeed id task command).1 := by
  cases command with
  | prepare sql => exact move_of_send found (.inr ⟨sql, rfl, rfl⟩)
  | start => exact .began id task found
  | commit => exact move_of_finish found
  | rollback => exact move_of_finish found
  | run sql => exact move_of_finish found

lemma move_of_step {event : SessionEvent} {result : SessionResult}
    (h : s.step event = some (s', result)) : Move s s' := by
  cases event with
  | call id task => exact move_of_startCall h
  | proceed id =>
    rw [step] at h
    split at h
    · rename_i task hfound
      have hs' : (s.send id task task.firstCommand).1 = s' := congrArg Prod.fst (Option.some.inj h)
      exact hs' ▸ move_of_send hfound (.inl ⟨rfl, rfl⟩)
    · cases h
  | answered id report =>
    rw [step] at h
    split at h
    · rename_i task command hfound
      cases report with
      | none =>
        have hs' : (s.succeed id task command).1 = s' := congrArg Prod.fst (Option.some.inj h)
        exact hs' ▸ move_of_succeed hfound
      | some r =>
        have hs' : (s.finish id task false _).1 = s' := congrArg Prod.fst (Option.some.inj h)
        exact hs' ▸ move_of_finish hfound
    · cases h
  | unusable id reason =>
    rw [step] at h
    split at h
    · rename_i task sql hfound
      have hs' : (s.finish id task false _).1 = s' := congrArg Prod.fst (Option.some.inj h)
      exact hs' ▸ move_of_finish hfound
    · rename_i task sql hfound
      have hs' : (s.finish id task false _).1 = s' := congrArg Prod.fst (Option.some.inj h)
      exact hs' ▸ move_of_finish hfound
    · cases h
  | close =>
    cases h
    exact .closed

/-- The session after a first event and then others. -/
lemma run_cons {event : SessionEvent} {events : List SessionEvent}
    (h : s.run (event :: events) = some s') :
    ∃ s₁ result, s.step event = some (s₁, result) ∧ s₁.run events = some s' := by
  rw [run, List.foldlM_cons] at h
  obtain ⟨s₁, hstep, hrun⟩ := Option.bind_eq_some_iff.mp h
  obtain ⟨⟨s₁', result⟩, hstep', rfl⟩ := Option.map_eq_some_iff.mp hstep
  exact ⟨s₁', result, hstep', hrun⟩

end Session

end BulkValues.Postgres
