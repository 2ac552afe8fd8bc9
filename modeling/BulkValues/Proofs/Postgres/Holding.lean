/-
# Who holds the client

Whoever holds the client of a connection acts on it alone: a single direct statement, the
beginning of a transaction, the statements of the one transaction that is alive, or its end.  All
other calls stand in the queue.  Every move keeps this, since the client goes on to the next call
only when the last one that acts has left.
-/
import BulkValues.Proofs.Postgres.Moves

namespace BulkValues.Postgres.Session

variable {s s' : Session} {id t : ℕ} {task : Task} {phase : Phase} {command : Command}

/-! ## The calls under way -/

/-- The calls under way have different numbers, those that wait for the client stand in its queue,
and every one of them sends commands of its own. -/
structure Listed (s : Session) : Prop where
  unique : (s.calls.map Prod.fst).Nodup
  queue : s.waiters = s.queued.map Prod.fst
  /-- Statements and ends of a transaction do not wait, it has the client already. -/
  outside : ∀ c ∈ s.queued, c.2.1.transaction? = none
  /-- The number of a transaction that has begun is not given again. -/
  unused : ∀ c ∈ s.calls, c.2.1.transaction? = none → c.1 ∉ s.begun
  sends : ∀ c ∈ s.calls, ∀ command, c.2.2 = .sent command → c.2.1.Sends command

namespace Listed

lemma of_eq (h : Listed s) (s' : Session) (hcalls : s'.calls = s.calls)
    (hwaiters : s'.waiters = s.waiters) (hbegun : s'.begun = s.begun) : Listed s' := by
  have hqueued : s'.queued = s.queued := by rw [queued, hcalls, queued]
  exact ⟨by rw [hcalls]; exact h.unique, by rw [hwaiters, hqueued]; exact h.queue,
    by rw [hqueued]; exact h.outside, by rw [hcalls, hbegun]; exact h.unused,
    by rw [hcalls]; exact h.sends⟩

/-- A call that acts does not stand in the queue. -/
lemma queue_of_acting (h : Listed s) (hacting : (id, task, phase) ∈ s.acting) :
    s.waiters = (s.queued.filter fun c => c.1 ≠ id).map Prod.fst := by
  rw [h.queue, List.filter_eq_self.mpr]
  rintro ⟨id', task', phase'⟩ hqueued
  obtain ⟨hcalls, hphase⟩ := mem_acting.mp hacting
  obtain ⟨hcalls', hphase'⟩ := mem_queued.mp hqueued
  rw [decide_eq_true_eq]
  rintro rfl
  -- The two calls of one number would be one call.
  have hfound := call?_of_mem h.unique hcalls
  rw [call?_of_mem h.unique hcalls'] at hfound
  cases hfound
  exact hphase hphase'

/-- Nor does a call that is new. -/
lemma queue_of_new (h : Listed s) (hnew : s.call? id = none) :
    s.waiters = (s.queued.filter fun c => c.1 ≠ id).map Prod.fst := by
  rw [h.queue, List.filter_eq_self.mpr]
  intro c hc
  simpa using forall_ne_of_call?_none hnew c (mem_queued.mp hc).1

lemma unique_setPhase (h : Listed s) (id : ℕ) (task : Task) (phase : Phase) :
    ((s.setPhase id task phase).calls.map Prod.fst).Nodup := by
  rw [calls_setPhase, List.map_append, List.map_singleton, List.nodup_append]
  refine ⟨h.unique.sublist (List.filter_sublist.map _), List.nodup_singleton id, ?_⟩
  simp

lemma without (h : Listed s)
    (hqueue : s.waiters = (s.queued.filter fun c => c.1 ≠ id).map Prod.fst) :
    Listed (s.without id) where
  unique := h.unique.sublist (List.filter_sublist.map _)
  queue := by rwa [queued_without]
  outside c hc := by
    rw [queued_without] at hc
    exact h.outside c (List.mem_of_mem_filter hc)
  unused c hc := h.unused c (List.mem_of_mem_filter hc)
  sends c hc := h.sends c (List.mem_of_mem_filter hc)

/-- A call acts, whether it did before, is new, or stood at the front of the queue. -/
lemma act {waiters : List ℕ} (h : Listed s)
    (hqueue : waiters = (s.queued.filter fun c => c.1 ≠ id).map Prod.fst)
    (hphase : phase ≠ .waiting) (hunused : task.transaction? = none → id ∉ s.begun)
    (hsends : ∀ command, phase = .sent command → task.Sends command) :
    Listed ({ s with waiters := waiters }.setPhase id task phase) where
  unique := h.unique_setPhase id task phase
  queue := by
    rw [queued_setPhase hphase]
    exact hqueue
  outside c hc := by
    rw [queued_setPhase hphase] at hc
    exact h.outside c (List.mem_of_mem_filter hc)
  unused c hc := by
    rw [calls_setPhase, List.mem_append, List.mem_singleton] at hc
    rcases hc with hc | rfl
    · exact h.unused c (List.mem_of_mem_filter hc)
    · exact hunused
  sends c hc := by
    rw [calls_setPhase, List.mem_append, List.mem_singleton] at hc
    rcases hc with hc | rfl
    · exact h.sends c (List.mem_of_mem_filter hc)
    · exact hsends

/-- A new call takes its place at the end of the queue. -/
lemma wait (h : Listed s) (hnew : s.call? id = none) (houtside : task.transaction? = none)
    (hunused : id ∉ s.begun) :
    Listed ({ s with waiters := s.waiters ++ [id] }.setPhase id task .waiting) where
  unique := h.unique_setPhase id task .waiting
  queue := by
    rw [queued_setPhase_waiting, List.map_append, List.map_singleton]
    exact congrArg (· ++ [id]) (h.queue_of_new hnew)
  outside c hc := by
    rw [queued_setPhase_waiting, List.mem_append, List.mem_singleton] at hc
    rcases hc with hc | rfl
    · exact h.outside c (List.mem_of_mem_filter hc)
    · exact houtside
  unused c hc := by
    rw [calls_setPhase, List.mem_append, List.mem_singleton] at hc
    rcases hc with hc | rfl
    · exact h.unused c (List.mem_of_mem_filter hc)
    · exact fun _ => hunused
  sends c hc := by
    rw [calls_setPhase, List.mem_append, List.mem_singleton] at hc
    rcases hc with hc | rfl
    · exact h.sends c (List.mem_of_mem_filter hc)
    · exact nofun

/-- The client goes to the first call in the queue, if there is one. -/
lemma release_eq (h : Listed s) :
    s.waiters = [] ∧ s.release = { s with holder := none } ∨
      ∃ id task rest, s.waiters = id :: rest ∧ (id, task, .waiting) ∈ s.queued ∧
        rest = (s.queued.filter fun c => c.1 ≠ id).map Prod.fst ∧
        s.release =
          setPhase { s with holder := some (task.owner id), waiters := rest } id task .ready := by
  rcases hqueued : s.queued with _ | ⟨⟨id, task, phase⟩, rest⟩
  · have hwaiters : s.waiters = [] := by rw [h.queue, hqueued, List.map_nil]
    exact .inl ⟨hwaiters, by rw [release, hwaiters]⟩
  · have hwaiters : s.waiters = id :: rest.map Prod.fst := by rw [h.queue, hqueued, List.map_cons]
    have hmem : (id, task, phase) ∈ s.queued := by
      rw [hqueued]
      exact List.mem_cons_self
    obtain ⟨hcalls, hphase⟩ := mem_queued.mp hmem
    cases hphase
    have hfound := call?_of_mem h.unique hcalls
    -- The numbers in the queue differ, so that the front stands in it only once.
    have hnodup : (s.queued.map Prod.fst).Nodup := h.unique.sublist (List.filter_sublist.map _)
    rw [hqueued, List.map_cons, List.nodup_cons] at hnodup
    have hrest : rest.filter (fun c => c.1 ≠ id) = rest := by
      refine List.filter_eq_self.mpr fun c hc => ?_
      have hne : c.1 ≠ id := fun heq => hnodup.1 (List.mem_map.mpr ⟨c, hc, heq⟩)
      simpa using hne
    refine .inr ⟨id, task, rest.map Prod.fst, hwaiters, List.mem_cons_self, ?_, ?_⟩
    · rw [List.filter_cons_of_neg (by simp), hrest]
    · rw [release, hwaiters]
      simp only [hfound]

lemma release (h : Listed s) : Listed s.release := by
  obtain ⟨hwaiters, heq⟩ | ⟨id, task, rest, hwaiters, hmem, hrest, heq⟩ := h.release_eq
  · rw [heq]
    exact h.of_eq _ rfl rfl rfl
  · obtain ⟨hcalls, -⟩ := mem_queued.mp hmem
    rw [heq]
    exact (h.of_eq { s with holder := some (task.owner id) } rfl rfl rfl).act hrest nofun
      (h.unused _ hcalls) nofun

lemma leave (h : Listed s) (hacting : (id, task, phase) ∈ s.acting) : Listed (s.leave id task) := by
  have hwithout := h.without (h.queue_of_acting hacting)
  rw [Session.leave]
  split
  · exact hwithout
  · exact hwithout.release

end Listed

/-- A call whose turn it is acts already. -/
lemma mem_acting_of_next (found : s.call? id = some (task, phase))
    (next : phase = .ready ∧ command = task.firstCommand ∨
      ∃ sql, phase = .sent (.prepare sql) ∧ command = .run sql) :
    (id, task, phase) ∈ s.acting := by
  refine mem_acting_of_call? found ?_
  rcases next with ⟨rfl, -⟩ | ⟨sql, rfl, -⟩
  · exact nofun
  · exact nofun

/-- The next command is one of the task. -/
lemma Listed.sends_next (h : Listed s) (found : s.call? id = some (task, phase))
    (next : phase = .ready ∧ command = task.firstCommand ∨
      ∃ sql, phase = .sent (.prepare sql) ∧ command = .run sql) : task.Sends command := by
  rcases next with ⟨-, rfl⟩ | ⟨sql, rfl, rfl⟩
  · exact .first
  · have hprepared := h.sends _ (mem_calls_of_call? found) _ rfl
    exact .next sql sql (Task.firstCommand_of_sends_prepare hprepared)

lemma mem_acting_of_acts (found : s.call? id = some (task, phase))
    (acts : phase = .ready ∧ s.isClosed = true ∨ ∃ command, phase = .sent command) :
    (id, task, phase) ∈ s.acting := by
  refine mem_acting_of_call? found ?_
  rcases acts with ⟨rfl, -⟩ | ⟨command, rfl⟩
  · exact nofun
  · exact nofun

lemma listed_of_move (h : Listed s) (hmove : Move s s') : Listed s' := by
  cases hmove with
  | refused => exact h
  | closed => exact h.of_eq _ rfl rfl rfl
  | admitted id task new outside unused free =>
    exact (h.of_eq { s with holder := some (task.owner id) } rfl rfl rfl).act
      (h.queue_of_new new) nofun (fun _ => unused) nofun
  | delayed id task new outside unused => exact h.wait new outside unused
  | joined id transaction fetch sql new used =>
    exact h.act (h.queue_of_new new) nofun nofun nofun
  | parted id transaction task new inside isEnd used idle =>
    refine (h.of_eq { s with alive := s.alive.erase transaction } rfl rfl rfl).act
      (h.queue_of_new new) nofun (fun houtside => ?_) nofun
    rw [inside] at houtside
    cases houtside
  | sent id task phase command found next open_ =>
    refine (h.of_eq { s with log := s.log ++ [(task.owner id, command)] } rfl rfl rfl).act
      (h.queue_of_acting (mem_acting_of_next found next)) nofun
      (h.unused _ (mem_calls_of_call? found)) ?_
    rintro _ ⟨⟩
    exact h.sends_next found next
  | began id task found =>
    have hacting := mem_acting_of_call? found nofun
    have hwithout := h.without (h.queue_of_acting hacting)
    refine ⟨hwithout.unique, hwithout.queue, hwithout.outside, fun c hc houtside => ?_,
      hwithout.sends⟩
    obtain ⟨hcalls, hne⟩ := List.mem_filter.mp hc
    change c.1 ∉ id :: s.begun
    rw [List.mem_cons, not_or]
    exact ⟨by simpa using hne, h.unused c hcalls houtside⟩
  | left id task phase found acts => exact h.leave (mem_acting_of_acts found acts)

/-! ## Who holds the client -/

/-- The calls that act are those of whoever holds the client, and a transaction is alive only as
long as it holds the client. -/
inductive Held (s : Session) : Prop
  | free (holder : s.holder = none) (acting : s.acting = []) (alive : s.alive = [])
  | direct (id : ℕ) (fetch : Bool) (sql : String) (phase : Phase)
      (holder : s.holder = some (.call id)) (acting : s.acting = [(id, .direct fetch sql, phase)])
      (alive : s.alive = [])
  | starting (id : ℕ) (phase : Phase) (holder : s.holder = some (.transaction id))
      (acting : s.acting = [(id, .start, phase)]) (alive : s.alive = [])
      (latest : phase = .sent .start →
        ∃ earlier, s.log = earlier ++ [(.transaction id, .start)])
  | going (t : ℕ) (holder : s.holder = some (.transaction t))
      (acting : ∀ c ∈ s.acting, ∃ fetch sql, c.2.1 = .inside t fetch sql) (alive : s.alive = [t])
  | ending (id t : ℕ) (task : Task) (phase : Phase) (holder : s.holder = some (.transaction t))
      (acting : s.acting = [(id, task, phase)]) (isEnd : task.isEnd = true)
      (inside : task.transaction? = some t) (alive : s.alive = [])

/-- The ways in which a call acts. -/
inductive Acts (s : Session) (id : ℕ) (phase : Phase) : Task → Prop
  | direct (fetch : Bool) (sql : String) (holder : s.holder = some (.call id))
      (acting : s.acting = [(id, .direct fetch sql, phase)]) (alive : s.alive = []) :
      Acts s id phase (.direct fetch sql)
  | starting (holder : s.holder = some (.transaction id))
      (acting : s.acting = [(id, .start, phase)]) (alive : s.alive = [])
      (latest : phase = .sent .start → ∃ earlier, s.log = earlier ++ [(.transaction id, .start)]) :
      Acts s id phase .start
  | going (t : ℕ) (fetch : Bool) (sql : String) (holder : s.holder = some (.transaction t))
      (acting : ∀ c ∈ s.acting, ∃ fetch sql, c.2.1 = .inside t fetch sql)
      (alive : s.alive = [t]) : Acts s id phase (.inside t fetch sql)
  | ending (t : ℕ) (task : Task) (holder : s.holder = some (.transaction t))
      (acting : s.acting = [(id, task, phase)]) (isEnd : task.isEnd = true)
      (inside : task.transaction? = some t) (alive : s.alive = []) : Acts s id phase task

namespace Held

lemma acts (h : Held s) (hacting : (id, task, phase) ∈ s.acting) : Acts s id phase task := by
  cases h with
  | free holder acting alive =>
    rw [acting] at hacting
    cases hacting
  | direct id' fetch sql phase' holder acting alive =>
    have hmem := hacting
    rw [acting, List.mem_singleton] at hmem
    cases hmem
    exact .direct fetch sql holder acting alive
  | starting id' phase' holder acting alive latest =>
    have hmem := hacting
    rw [acting, List.mem_singleton] at hmem
    cases hmem
    exact .starting holder acting alive latest
  | going t holder acting alive =>
    obtain ⟨fetch, sql, htask⟩ := acting _ hacting
    cases htask
    exact .going t fetch sql holder acting alive
  | ending id' t task' phase' holder acting isEnd inside alive =>
    have hmem := hacting
    rw [acting, List.mem_singleton] at hmem
    cases hmem
    exact .ending t task holder acting isEnd inside alive

/-- A call that ends a transaction acts alone. -/
lemma of_isEnd (h : Held s) (hacting : (id, task, phase) ∈ s.acting) (hend : task.isEnd = true) :
    s.acting = [(id, task, phase)] ∧ s.alive = [] := by
  cases h.acts hacting with
  | direct fetch sql holder acting alive => cases hend
  | starting holder acting alive latest => cases hend
  | going t fetch sql holder acting alive => cases hend
  | ending t task holder acting isEnd inside alive => exact ⟨acting, alive⟩

/-- The latest command is that of a transaction whose beginning is not answered yet. -/
lemma log_of_starting (h : Held s) (hacting : (id, .start, .sent .start) ∈ s.acting) :
    ∃ earlier, s.log = earlier ++ [(.transaction id, .start)] := by
  cases h.acts hacting with
  | starting holder acting alive latest => exact latest rfl
  | ending t task holder acting isEnd inside alive => cases isEnd

lemma of_eq (h : Held s) (hholder : s'.holder = s.holder) (hacting : s'.acting = s.acting)
    (halive : s'.alive = s.alive) (hlog : s'.log = s.log) : Held s' := by
  cases h with
  | free holder acting alive =>
    exact .free (hholder.trans holder) (hacting.trans acting) (halive.trans alive)
  | direct id fetch sql phase holder acting alive =>
    exact .direct id fetch sql phase (hholder.trans holder) (hacting.trans acting)
      (halive.trans alive)
  | starting id phase holder acting alive latest =>
    exact .starting id phase (hholder.trans holder) (hacting.trans acting) (halive.trans alive)
      (hlog ▸ latest)
  | going t holder acting alive =>
    exact .going t (hholder.trans holder) (hacting ▸ acting) (halive.trans alive)
  | ending id t task phase holder acting isEnd inside alive =>
    exact .ending id t task phase (hholder.trans holder) (hacting.trans acting) isEnd inside
      (halive.trans alive)

/-- Only a free client is held by nobody. -/
lemma of_holder_none (h : Held s) (hholder : s.holder = none) : s.acting = [] ∧ s.alive = [] := by
  cases h with
  | free holder acting alive => exact ⟨acting, alive⟩
  | direct id fetch sql phase holder acting alive => simp [holder] at hholder
  | starting id phase holder acting alive latest => simp [holder] at hholder
  | going t holder acting alive => simp [holder] at hholder
  | ending id t task phase holder acting isEnd inside alive => simp [holder] at hholder

/-- A transaction that is alive holds the client, and only its statements act. -/
lemma of_alive (h : Held s) (halive : t ∈ s.alive) :
    s.holder = some (.transaction t) ∧ s.alive = [t] ∧
      ∀ c ∈ s.acting, ∃ fetch sql, c.2.1 = .inside t fetch sql := by
  cases h with
  | going t' holder acting alive =>
    rw [alive, List.mem_singleton] at halive
    subst halive
    exact ⟨holder, alive, acting⟩
  | free holder acting alive => simp [alive] at halive
  | direct id fetch sql phase holder acting alive => simp [alive] at halive
  | starting id phase holder acting alive latest => simp [alive] at halive
  | ending id t task phase holder acting isEnd inside alive => simp [alive] at halive

/-- A call that needs the client and gets it is the only one that acts. -/
lemma of_admitted (hholder : s.holder = some (task.owner id))
    (hacting : s.acting = [(id, task, .ready)]) (halive : s.alive = [])
    (houtside : task.transaction? = none) : Held s := by
  obtain ⟨fetch, sql, rfl⟩ | rfl := Task.direct_or_start houtside
  · exact .direct id fetch sql .ready hholder hacting halive
  · exact .starting id .ready hholder hacting halive nofun

end Held

lemma held_release (h : Listed s) (hacting : s.acting = []) (halive : s.alive = []) :
    Held s.release := by
  obtain ⟨-, heq⟩ | ⟨id, task, rest, -, hmem, -, heq⟩ := h.release_eq
  · rw [heq]
    exact .free rfl hacting halive
  · rw [heq]
    refine .of_admitted rfl ?_ halive (h.outside _ hmem)
    rw [acting_ready]
    change s.acting.filter _ ++ _ = _
    rw [hacting]
    rfl

/-- The last call that acts leaves. -/
lemma held_leave_last (h : Listed s) (hacting : s.acting = [(id, task, phase)])
    (halive : s.alive = []) (hlast : (task.transaction?.isSome && !task.isEnd) = false) :
    Held (s.leave id task) := by
  rw [leave, hlast, if_neg Bool.false_ne_true]
  have hmem : (id, task, phase) ∈ s.acting := by
    rw [hacting]
    exact List.mem_singleton_self _
  exact held_release (h.without (h.queue_of_acting hmem)) (by simp [hacting]) halive

lemma held_leave (h : Listed s) (hheld : Held s) (hacting : (id, task, phase) ∈ s.acting) :
    Held (s.leave id task) := by
  cases hheld.acts hacting with
  | direct fetch sql holder acting alive => exact held_leave_last h acting alive rfl
  | starting holder acting alive latest => exact held_leave_last h acting alive rfl
  | going t fetch sql holder acting alive =>
    refine .going t holder (fun c hc => ?_) alive
    rw [leave, if_pos (by rfl), acting_without] at hc
    exact acting c (List.mem_of_mem_filter hc)
  | ending t task holder acting isEnd inside alive =>
    exact held_leave_last h acting alive (by rw [isEnd, Bool.not_true, Bool.and_false])

/-- A call that acts goes on to wait for the answer to its command. -/
lemma held_sent (hheld : Held s) (hacting : (id, task, phase) ∈ s.acting) :
    Held (setPhase { s with log := s.log ++ [(task.owner id, command)] } id task
      (.sent command)) := by
  have hacts : (setPhase { s with log := s.log ++ [(task.owner id, command)] } id task
      (.sent command)).acting =
        s.acting.filter (fun c => c.1 ≠ id) ++ [(id, task, .sent command)] := acting_sent
  cases hheld.acts hacting with
  | direct fetch sql holder acting alive =>
    exact .direct id fetch sql (.sent command) holder (by simp [hacts, acting]) alive
  | starting holder acting alive latest =>
    refine .starting id (.sent command) holder (by simp [hacts, acting]) alive ?_
    rintro ⟨⟩
    exact ⟨s.log, rfl⟩
  | going t fetch sql holder acting alive =>
    refine .going t holder (fun c hc => ?_) alive
    rw [hacts, List.mem_append, List.mem_singleton] at hc
    rcases hc with hc | rfl
    · exact acting c (List.mem_of_mem_filter hc)
    · exact ⟨fetch, sql, rfl⟩
  | ending t task holder acting isEnd inside alive =>
    exact .ending id t task (.sent command) holder (by simp [hacts, acting]) isEnd inside alive

/-- A transaction that has begun keeps the client. -/
lemma held_began (h : Listed s) (hheld : Held s) (found : s.call? id = some (task, .sent .start)) :
    Held (without { s with alive := id :: s.alive, begun := id :: s.begun } id) := by
  have htask : task = .start := Task.eq_start_of_sends (h.sends _ (mem_calls_of_call? found) _ rfl)
  subst htask
  cases hheld.acts (mem_acting_of_call? found nofun) with
  | starting holder acting alive latest =>
    refine .going id holder (fun c hc => ?_) (congrArg (id :: ·) alive)
    rw [acting_without] at hc
    change c ∈ s.acting.filter _ at hc
    simp [acting] at hc
  | ending t task holder acting isEnd inside alive => cases isEnd

/-- A new call acts beside those that do. -/
lemma acting_of_new (hnew : s.call? id = none) :
    s.acting.filter (fun c => c.1 ≠ id) = s.acting := by
  refine List.filter_eq_self.mpr fun c hc => ?_
  simpa using forall_ne_of_call?_none hnew c (mem_acting.mp hc).1

/-- No call acts in a transaction that is idle. -/
lemma acting_of_idle (hacting : ∀ c ∈ s.acting, ∃ fetch sql, c.2.1 = .inside t fetch sql)
    (hidle : s.isBusy t = false) : s.acting = [] := by
  refine List.eq_nil_iff_forall_not_mem.mpr fun c hc => ?_
  obtain ⟨fetch, sql, htask⟩ := hacting c hc
  rw [isBusy, List.any_eq_false] at hidle
  have := hidle c (mem_acting.mp hc).1
  rw [htask] at this
  simp [Task.transaction?] at this

lemma held_of_move (h : Listed s) (hheld : Held s) (hmove : Move s s') : Held s' := by
  cases hmove with
  | refused => exact hheld
  | closed => exact hheld.of_eq rfl rfl rfl rfl
  | admitted id task new outside unused free =>
    obtain ⟨hacting, halive⟩ := hheld.of_holder_none free
    refine .of_admitted rfl ?_ halive outside
    rw [acting_ready]
    change s.acting.filter _ ++ _ = _
    rw [hacting]
    rfl
  | delayed id task new outside unused =>
    exact hheld.of_eq rfl (acting_setPhase_waiting.trans (acting_of_new new)) rfl rfl
  | joined id transaction fetch sql new used =>
    obtain ⟨hholder, halive, hacting⟩ := hheld.of_alive used
    refine .going transaction hholder (fun c hc => ?_) halive
    rw [acting_ready, List.mem_append, List.mem_singleton] at hc
    rcases hc with hc | rfl
    · exact hacting c (List.mem_of_mem_filter hc)
    · exact ⟨fetch, sql, rfl⟩
  | parted id transaction task new inside isEnd used idle =>
    obtain ⟨hholder, halive, hacting⟩ := hheld.of_alive used
    refine .ending id transaction task .ready hholder ?_ isEnd inside (by simp [halive])
    rw [acting_ready]
    change s.acting.filter _ ++ _ = _
    rw [acting_of_idle hacting idle]
    rfl
  | sent id task phase command found next open_ =>
    exact held_sent hheld (mem_acting_of_next found next)
  | began id task found => exact held_began h hheld found
  | left id task phase found acts => exact held_leave h hheld (mem_acting_of_acts found acts)

/-! ## Whole histories -/

lemma listed_empty : Listed {} := ⟨.nil, rfl, nofun, nofun, nofun⟩

lemma held_empty : Held {} := .free rfl rfl rfl

lemma held_run {events : List SessionEvent} (h : Listed s) (hheld : Held s)
    (hrun : s.run events = some s') : Listed s' ∧ Held s' := by
  induction events generalizing s with
  | nil =>
    cases hrun
    exact ⟨h, hheld⟩
  | cons event events ih =>
    obtain ⟨s₁, result, hstep, hrest⟩ := run_cons hrun
    have hmove := move_of_step hstep
    exact ih (listed_of_move h hmove) (held_of_move h hheld hmove) hrest

end BulkValues.Postgres.Session
