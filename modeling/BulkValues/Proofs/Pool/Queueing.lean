/-
# The queue of a pool

A request that finds no free permit joins the queue.  Where the queue is limited, such a request
is refused if as many requests are under way as may wait.  Those under way are the queued ones and
those that have a permit and look for a connection.  The queue is therefore never longer than it
may be; but a request is refused as well when the queue is shorter and requests with a permit make
up for what is missing.

The bound is on the requests that do not look for a connection yet, which a permit that is handed
on leaves as many as they were.
-/
import BulkValues.Proofs.Pool.Closing
import BulkValues.Proofs.Pool.Search

namespace BulkValues.Pool

namespace Task

/-- A request that waits for a permit counts once. -/
def queued : Task → ℕ
  | get _ .queued => 1
  | _ => 0

/-- A request that waits for a permit, or was handed one and has not gone on yet, counts once. -/
def unserved : Task → ℕ
  | get _ phase => if phase.isSeeking then 0 else 1
  | _ => 0

lemma unserved_get {deadline : ℕ} {phase : Phase} (h : phase.isSeeking = true) :
    (get deadline phase).unserved = 0 := if_pos h

lemma queued_get {deadline : ℕ} {phase : Phase} (h : phase.hasPermit = true) :
    (get deadline phase).queued = 0 := by
  cases phase with
  | queued => cases h
  | granted => rfl
  | validating e => rfl
  | discarding e => rfl
  | creating => rfl

end Task

/-- The requests of a pool stand in line: no more of them are unserved than may wait, the queue of
an open pool holds those that wait, and nobody waits while a permit is free. -/
structure Lined (c : Config) (p : Pool) : Prop where
  limited : 0 < c.maxWaiting → p.tally Task.unserved ≤ c.maxWaiting
  waits : p.isClosed = false → p.tally Task.queued = p.queue.length
  free : 0 < p.free → p.queue = []

variable {c : Config} {loose id : ℕ} {p q : Pool} {t : Task} {e : Entry} {deadline : ℕ}
  {phase : Phase} {events : List Event}

/-! ## Counting requests -/

lemma tally_queued_le_unserved (p : Pool) : p.tally Task.queued ≤ p.tally Task.unserved := by
  refine tally_le_tally (fun t => ?_) p
  cases t with
  | get deadline phase => cases phase <;> first | exact le_rfl | exact Nat.zero_le _
  | «open» missing => exact le_rfl
  | close rest => exact le_rfl

lemma tally_unserved_le_requests (p : Pool) : p.tally Task.unserved ≤ p.tally Task.requests := by
  refine tally_le_tally (fun t => ?_) p
  cases t with
  | get deadline phase => cases phase <;> first | exact le_rfl | exact Nat.zero_le _
  | «open» missing => exact le_rfl
  | close rest => exact le_rfl

/-- A request under way waits for a permit or has one. -/
lemma tally_requests (p : Pool) :
    p.tally Task.requests = p.tally Task.queued + p.tally Task.permits := by
  rw [tally, tally, tally, ← List.sum_map_add]
  refine congrArg List.sum (List.map_congr_left fun u _ => ?_)
  cases u.2 with
  | get deadline phase => cases phase <;> rfl
  | «open» missing => rfl
  | close rest => rfl

/-- Different requests that wait are counted apart. -/
lemma length_le_tally_queued {ids : List ℕ} (hcalls : p.calls.Nodup) (hids : ids.Nodup)
    (h : ∀ id ∈ ids, ∃ deadline, p.task? id = some (.get deadline .queued)) :
    ids.length ≤ p.tally Task.queued := by
  induction ids generalizing p with
  | nil => exact Nat.zero_le _
  | cons id ids ih =>
    obtain ⟨hfresh, hids⟩ := List.nodup_cons.mp hids
    obtain ⟨⟨deadline, ht⟩, hrest⟩ := List.forall_mem_cons.mp h
    have hcalls' : (p.removeTask id).calls.Nodup := by
      rw [calls_removeTask]
      exact hcalls.filter _
    have hstill := ih hcalls' hids fun other hother => by
      rw [task?_removeTask_of_ne hcalls ht fun heq => hfresh (heq ▸ hother)]
      exact hrest other hother
    have hremoved : (p.removeTask id).tally Task.queued + 1 = p.tally Task.queued :=
      tally_removeTask hcalls ht Task.queued
    rw [List.length_cons]
    omega

/-! ## What a search leaves alone -/

@[simp] lemma queue_search (p : Pool) (id : ℕ) : (p.search id).queue = p.queue := by
  rw [search]
  split
  · rfl
  · split <;> rfl

@[simp] lemma free_search (p : Pool) (id : ℕ) : (p.search id).free = p.free := by
  rw [search]
  split
  · rfl
  · split <;> rfl

/-! ## What calls do -/

namespace Lined

lemma of_le (h : Lined c p) (hclosed : q.isClosed = p.isClosed) (hfree : q.free = p.free)
    (hqueue : q.queue = p.queue) (hqueued : q.tally Task.queued = p.tally Task.queued)
    (hunserved : q.tally Task.unserved ≤ p.tally Task.unserved) : Lined c q where
  limited hlimit := hunserved.trans (h.limited hlimit)
  waits hopen := by
    rw [hqueued, hqueue]
    exact h.waits (hclosed ▸ hopen)
  free hpositive := by
    rw [hqueue]
    exact h.free (hfree ▸ hpositive)

/-- Who waits for a permit in an open pool is in the queue. -/
lemma mem_queue (h : Lined c p) (haccounts : Accounts c loose p) (hopen : p.isClosed = false)
    (ht : p.task? id = some (.get deadline .queued)) : id ∈ p.queue := by
  by_contra hid
  have hall : ∀ other ∈ id :: p.queue, ∃ deadline, p.task? other = some (.get deadline .queued) :=
    List.forall_mem_cons.mpr ⟨⟨deadline, ht⟩, haccounts.queued⟩
  have hle := length_le_tally_queued haccounts.calls (List.nodup_cons.mpr ⟨hid, haccounts.queue⟩)
    hall
  rw [h.waits hopen, List.length_cons] at hle
  omega

/-- A call comes that does not wait for a permit. -/
lemma addTask (h : Lined c p) (hqueued : t.queued = 0) (hunserved : t.unserved = 0) :
    Lined c (p.addTask id t) := by
  refine h.of_le rfl rfl rfl ?_ ?_
  · rw [tally_addTask, hqueued, Nat.add_zero]
  · rw [tally_addTask, hunserved, Nat.add_zero]

/-- A call goes on that did not wait for a permit. -/
lemma setTask (h : Lined c p) (haccounts : Accounts c loose p) (t' : Task)
    (ht : p.task? id = some t) (hqueued : t.queued = 0) (hqueued' : t'.queued = 0)
    (hunserved : t'.unserved ≤ t.unserved) : Lined c (p.setTask id t') := by
  have hset := tally_setTask haccounts.calls ht Task.queued t'
  have hset' := tally_setTask haccounts.calls ht Task.unserved t'
  refine h.of_le rfl rfl rfl ?_ ?_ <;> omega

/-- A call ends that did not wait for a permit. -/
lemma removeTask (h : Lined c p) (haccounts : Accounts c loose p) (ht : p.task? id = some t)
    (hqueued : t.queued = 0) : Lined c (p.removeTask id) := by
  have hremoved := tally_removeTask haccounts.calls ht Task.queued
  have hremoved' := tally_removeTask haccounts.calls ht Task.unserved
  refine h.of_le rfl rfl rfl ?_ ?_ <;> omega

lemma search (h : Lined c p) (haccounts : Accounts c loose p)
    (ht : p.task? id = some (.get deadline phase)) (hpermit : phase.hasPermit = true) :
    Lined c (p.search id) := by
  obtain ⟨phase', hseeking, -, -, htally⟩ := search_effect haccounts.calls ht
  have hset := htally Task.queued
  have hset' := htally Task.unserved
  rw [Task.queued_get hpermit, Task.queued_get (Phase.hasPermit_of_isSeeking hseeking)] at hset
  rw [Task.unserved_get hseeking] at hset'
  refine h.of_le (by simp) (by simp) (by simp) ?_ ?_ <;> omega

/-- Whoever is handed the permit leaves the queue and does not wait any more. -/
lemma releasePermit (h : Lined c p) (haccounts : Accounts c loose p) :
    Lined c p.releasePermit := by
  have hunserved : p.releasePermit.tally Task.unserved = p.tally Task.unserved :=
    haccounts.tally_releasePermit fun _ => rfl
  refine ⟨fun hlimit => hunserved.trans_le (h.limited hlimit), fun hopen => ?_, fun hfree => ?_⟩
  · rw [isClosed_releasePermit] at hopen
    have hwaits := h.waits hopen
    rw [Pool.releasePermit]
    split
    · exact hwaits
    · rename_i id rest hqueue
      obtain ⟨deadline, ht⟩ := haccounts.queued id (hqueue ▸ List.mem_cons_self)
      have hset : _ + 1 = p.tally Task.queued + 0 :=
        tally_setTask (p := { p with queue := rest }) haccounts.calls ht Task.queued
          (.get deadline .granted)
      rw [setPhase_eq_setTask (p := { p with queue := rest }) haccounts.calls ht]
      rw [hqueue, List.length_cons] at hwaits
      change _ = rest.length
      omega
  · have hnone := h.free
    rw [Pool.releasePermit] at hfree ⊢
    split at hfree
    · rename_i hqueue
      rw [hqueue]
    · rename_i id rest hqueue
      exact absurd (hnone hfree) (hqueue ▸ List.cons_ne_nil id rest)

lemma quit (h : Lined c p) (haccounts : Accounts c loose p)
    (ht : p.task? id = some (.get deadline phase)) : Lined c (p.quit id phase) := by
  rw [Pool.quit]
  split
  · rename_i hpermit
    have hremoved := haccounts.removeTask ht (haccounts.not_mem_queue_of_hasPermit ht hpermit)
    have hlined := h.removeTask haccounts ht (Task.queued_get hpermit)
    exact releasePermit (hlined.of_le rfl rfl rfl rfl le_rfl) hremoved
  · rename_i hpermit
    obtain rfl : phase = .queued := by
      cases phase <;> first | rfl | exact absurd rfl hpermit
    have hremoved : _ + 1 = p.tally Task.queued := tally_removeTask haccounts.calls ht Task.queued
    have hremoved' := tally_removeTask haccounts.calls ht Task.unserved
    refine ⟨fun hlimit => ?_, fun hopen => ?_, fun hfree => ?_⟩
    · have hlimited := h.limited hlimit
      change (p.removeTask id).tally _ ≤ _
      omega
    · have hwaits := h.waits hopen
      have hmem := h.mem_queue haccounts hopen ht
      have hlength := List.length_erase_add_one hmem
      have herase : p.queue.erase id = p.queue.filter (· ≠ id) := by
        rw [haccounts.queue.erase_eq_filter]
        exact List.filter_congr fun other _ => (decide_not).symm
      change (p.removeTask id).tally _ = (p.queue.filter (· ≠ id)).length
      rw [← herase]
      omega
    · change p.queue.filter _ = []
      rw [h.free hfree, List.filter_nil]

/-- A request that begins without a free permit waits only if fewer are under way than may
wait. -/
lemma startGet (h : Lined c p) (haccounts : Accounts c 0 p) (hid : p.isUnused id = true) :
    Lined c (p.startGet id).1 := by
  cases hclosed : p.isClosed with
  | true =>
    rw [Pool.startGet, if_pos hclosed]
    exact h
  | false =>
    cases hfree : p.free with
    | succ free =>
      rw [startGet_of_free hid hclosed hfree]
      have hqueue := h.free (hfree ▸ Nat.succ_pos free)
      have hseeking := isSeeking_nextPhase p
      refine addTask (p := { p with free, waiting := _, idle := _, discarded := _ })
        ⟨h.limited, h.waits, fun _ => hqueue⟩ ?_ (Task.unserved_get hseeking)
      exact Task.queued_get (Phase.hasPermit_of_isSeeking hseeking)
    | zero =>
      rw [startGet_of_no_permit hclosed hfree]
      split
      · exact ⟨h.limited, h.waits, h.free⟩
      · rename_i hroom
        refine ⟨fun hlimit => ?_, fun hopen => ?_, fun hpositive => ?_⟩
        · have hle := tally_unserved_le_requests p
          have hwaiting := haccounts.waiting
          rw [haccounts.config, any_waitingLimit_iff, not_and] at hroom
          have hfits := hroom hlimit
          rw [tally_addTask]
          change p.tally Task.unserved + 1 ≤ _
          omega
        · rw [tally_addTask]
          change p.tally Task.queued + 1 = (p.queue ++ [id]).length
          rw [h.waits hclosed, List.length_append, List.length_singleton]
        · exact absurd hfree (Nat.ne_of_gt hpositive)

lemma startOpen (h : Lined c p) : Lined c (p.startOpen id).1 := by
  rw [Pool.startOpen]
  split
  · exact h
  · split
    · exact h
    · exact h.addTask rfl rfl

lemma startCloseIdle (h : Lined c p) : Lined c (p.startCloseIdle id).1 := by
  rw [Pool.startCloseIdle]
  split
  · exact h
  · exact addTask (p := { p with idle := [] }) ⟨h.limited, h.waits, h.free⟩ rfl rfl

/-- A closed pool has no queue, and those that waited have yet to find out. -/
lemma startClose (h : Lined c p) : Lined c (p.startClose id).1 := by
  rw [Pool.startClose]
  split
  · exact h
  · have hclosed : Lined c { p with isClosed := true, queue := [] } :=
      ⟨h.limited, fun hopen => Bool.noConfusion hopen, fun _ => rfl⟩
    exact hclosed.startCloseIdle

lemma takeBack (h : Lined c p) (haccounts : Accounts c loose p)
    (hlent : p.lent.lookup id = some e) : Lined c (p.takeBack id e) := by
  obtain ⟨q, hq, heq, htasks, hqueue, hfree, hclosed, -⟩ := haccounts.takeBack_spec hlent
  have htally : ∀ f : Task → ℕ, q.tally f = p.tally f := fun f => by
    rw [tally, htasks]
    rfl
  rw [heq]
  exact releasePermit (h.of_le hclosed hfree hqueue (htally _) (htally _).le) hq

end Lined

/-- Every event keeps the requests in line. -/
lemma lined_step {event : Event} {next : Pool × Result} (h : Lined c p)
    (haccounts : Accounts c 0 p) (hadmits : p.admits event = true)
    (hstep : p.step event = some next) : Lined c next.1 := by
  cases effect_of_step hstep with
  | openStarted id => exact h.startOpen
  | getStarted id => exact h.startGet haccounts hadmits
  | closeIdleStarted id => exact h.startCloseIdle
  | closeStarted id => exact h.startClose
  | searched ht hopen => exact h.search haccounts ht rfl
  | refused ht hphase hclosed => exact h.quit haccounts ht
  | approved ht => exact (h.removeTask haccounts ht rfl).of_le rfl rfl rfl rfl le_rfl
  | disapproved ht =>
    rename_i deadline e
    rw [setPhase_eq_setTask (p := { p with discarded := p.discarded + 1 }) haccounts.calls ht]
    have hset := h.setTask haccounts (.get deadline (.discarding e)) ht rfl rfl le_rfl
    exact hset.of_le rfl rfl rfl rfl le_rfl
  | discarded ht =>
    rename_i e
    have hframe := haccounts.frame p.now p.isClosed (p.closedConnections ++ [e.connection])
      p.discarded p.timedOut p.rejected
    exact Lined.search (h.of_le rfl rfl rfl rfl le_rfl) hframe ht rfl
  | notCreated ht failure => exact h.quit haccounts ht
  | created ht => exact (h.removeTask haccounts ht rfl).of_le rfl rfl rfl rfl le_rfl
  | notOpened ht failure => exact h.removeTask haccounts ht rfl
  | openedLast ht => exact (h.removeTask haccounts ht rfl).of_le rfl rfl rfl rfl le_rfl
  | openedNext ht hmore =>
    rename_i id missing
    have hset := h.setTask haccounts (.open missing) ht rfl rfl le_rfl
    exact hset.of_le rfl rfl rfl rfl le_rfl
  | closedLast ht => exact (h.removeTask haccounts ht rfl).of_le rfl rfl rfl rfl le_rfl
  | closedNext ht hrest =>
    rename_i rest
    have hset := h.setTask haccounts (.close rest) ht rfl rfl le_rfl
    exact hset.of_le rfl rfl rfl rfl le_rfl
  | expired ht hdeadline => exact (h.quit haccounts ht).of_le rfl rfl rfl rfl le_rfl
  | requestAbandoned ht => exact h.quit haccounts ht
  | callAbandoned ht hget =>
    refine h.removeTask haccounts ht ?_
    rename_i t
    cases t with
    | get deadline phase => exact absurd rfl (hget deadline phase)
    | «open» missing => rfl
    | close rest => rfl
  | givenBack hlent => exact h.takeBack haccounts hlent
  | connectionClosed connection => exact h.of_le rfl rfl rfl rfl le_rfl
  | passed ms => exact h.of_le rfl rfl rfl rfl le_rfl

lemma lined_new (c : Config) (now : ℕ) : Lined c (.new c now) :=
  ⟨fun _ => Nat.zero_le _, fun _ => rfl, fun _ => rfl⟩

lemma lined_after (h : Lined c p) (haccounts : Accounts c 0 p)
    (hafter : p.after events = some q) : Lined c q := by
  induction events generalizing p with
  | nil =>
    cases hafter
    exact h
  | cons event events ih =>
    obtain ⟨next, hadmits, hstep, hrest⟩ := after_cons hafter
    exact ih (lined_step h haccounts hadmits hstep) (accounts_step haccounts hadmits hstep) hrest

/-! ## Requests that begin one after another -/

/-- An open pool without idle connections, in which all numbers from a certain one on are unused. -/
structure Ready (c : Config) (next : ℕ) (p : Pool) : Prop where
  accounts : Accounts c 0 p
  unused : ∀ id, next ≤ id → p.isUnused id = true
  isOpen : p.isClosed = false
  idle : p.idle = []

lemma isUnused_addTask {other : ℕ} (hne : other ≠ id) (h : p.isUnused other = true) (t : Task) :
    (p.addTask id t).isUnused other = true := by
  have hother : (other == id) = false := beq_false_of_ne hne
  rw [isUnused, task?] at h ⊢
  rw [Pool.addTask, List.lookup_append, List.lookup_cons, hother]
  simpa using h

lemma isUnused_lend {other : ℕ} (hne : other ≠ id) (h : p.isUnused other = true) (e : Entry) :
    (p.lend id e).1.isUnused other = true := by
  simp only [isUnused, task?, Bool.and_eq_true, Option.isNone_iff_eq_none,
    List.lookup_eq_none_iff, bne_iff_ne, ne_eq] at h ⊢
  refine ⟨fun u hu => h.1 u (List.mem_of_mem_filter hu), fun u hu => ?_⟩
  rcases List.mem_append.mp hu with hu | hu
  · exact h.2 u hu
  · rw [List.mem_singleton.mp hu]
    exact hne

namespace Ready

variable {next : ℕ}

lemma after_callGet (h : Ready c next p) (hroom : 0 < p.free ∨ p.waiting < c.maxWaiting) :
    ∃ q, p.after [.callGet next] = some q ∧ Ready c (next + 1) q ∧ q.free = p.free - 1 ∧
      q.waiting = p.waiting + 1 ∧ q.queue.length = p.queue.length + (1 - p.free) := by
  have hid := h.unused next le_rfl
  have haccounts := h.accounts.startGet hid
  have hunused : ∀ id, next + 1 ≤ id → id ≠ next ∧ p.isUnused id = true := fun id hid =>
    ⟨Nat.ne_of_gt hid, h.unused id (Nat.le_of_succ_le hid)⟩
  refine ⟨_, after_cons_of_step (e := .callGet next) hid rfl [], ?_⟩
  cases hfree : p.free with
  | succ free =>
    rw [startGet_of_free hid h.isOpen hfree] at haccounts ⊢
    refine ⟨⟨haccounts, fun id hid => ?_, h.isOpen, ?_⟩, rfl, rfl, ?_⟩
    · obtain ⟨hne, hother⟩ := hunused id hid
      exact isUnused_addTask hne hother _
    · change p.idle.tail = []
      rw [h.idle, List.tail_nil]
    · change p.queue.length = _
      omega
  | zero =>
    have hfits : ¬ p.config.waitingLimit.any (· ≤ p.waiting) = true := by
      rw [h.accounts.config, any_waitingLimit_iff]
      omega
    rw [startGet_of_no_permit h.isOpen hfree, if_neg hfits] at haccounts ⊢
    refine ⟨⟨haccounts, fun id hid => ?_, h.isOpen, h.idle⟩, hfree, rfl, List.length_append⟩
    obtain ⟨hne, hother⟩ := hunused id hid
    exact isUnused_addTask hne hother _

/-- Requests may begin as long as permits are free, or as they may wait. -/
lemma after_callGets {n : ℕ} (h : Ready c next p)
    (hroom : n ≤ p.free ∨ p.waiting + n ≤ c.maxWaiting) :
    ∃ q, p.after ((List.range' next n).map .callGet) = some q ∧ Ready c (next + n) q ∧
      q.free = p.free - n ∧ q.waiting = p.waiting + n ∧
      q.queue.length = p.queue.length + (n - p.free) := by
  induction n generalizing p next with
  | zero => exact ⟨p, rfl, h, rfl, rfl, by omega⟩
  | succ n ih =>
    obtain ⟨m, hfirst, hm, hfree, hwaiting, hqueue⟩ := h.after_callGet (by omega)
    obtain ⟨q, hafter, hq, hfree', hwaiting', hqueue'⟩ := ih hm (by omega)
    refine ⟨q, ?_, by rwa [Nat.add_right_comm] at hq, by omega, by omega, by omega⟩
    rw [List.range'_succ, List.map_cons, ← List.singleton_append, after_append hfirst, hafter]

/-- A request gets a new connection, and nothing else changes for the others. -/
lemma after_loan {free : ℕ} (h : Ready c next p) (hfree : p.free = free + 1) :
    ∃ q, p.after [.callGet next, .created next none] = some q ∧ Ready c (next + 1) q ∧
      q.free = free ∧ q.waiting = p.waiting ∧ q.queue = p.queue := by
  have hid := h.unused next le_rfl
  have hnext : p.nextPhase = .creating := by rw [nextPhase, h.idle]
  have hstart := startGet_of_free hid h.isOpen hfree
  rw [hnext] at hstart
  have hfirst : p.step (.callGet next) = some (_, none) := congrArg some hstart
  have hsecond := step_created (task?_addTask_self (p := { p with
    free, waiting := p.waiting + 1, idle := p.idle.tail, discarded := p.discarded + 0 })
      (task?_of_isUnused hid) (.get (p.now + p.config.acquireTimeout) .creating))
  have hadmits : p.admits (.callGet next) = true := hid
  have haccounts := accounts_step (accounts_step h.accounts hadmits hfirst) rfl hsecond
  refine ⟨_, ?_, ⟨haccounts, fun id hlater => ?_, h.isOpen, ?_⟩, rfl, rfl, rfl⟩
  · exact (after_cons_of_step (e := .callGet next) hid hfirst _).trans
      (after_cons_of_step rfl hsecond [])
  · have hne : id ≠ next := Nat.ne_of_gt hlater
    refine isUnused_lend hne (isUnused_addTask hne ?_ _) _
    exact h.unused id (Nat.le_of_succ_le hlater)
  · change p.idle.tail = []
    rw [h.idle, List.tail_nil]

lemma after_loans {n : ℕ} (h : Ready c next p) (hroom : n ≤ p.free) :
    ∃ events q, p.after events = some q ∧ Ready c (next + n) q ∧ q.free = p.free - n ∧
      q.waiting = p.waiting ∧ q.queue = p.queue := by
  induction n generalizing p next with
  | zero => exact ⟨[], p, rfl, h, rfl, rfl, rfl⟩
  | succ n ih =>
    obtain ⟨free, hfree⟩ := Nat.exists_eq_add_of_le' (Nat.lt_of_lt_of_le n.succ_pos hroom)
    obtain ⟨m, hfirst, hm, hfree', hwaiting, hqueue⟩ := h.after_loan hfree
    obtain ⟨events, q, hafter, hq, hfree'', hwaiting', hqueue'⟩ := ih hm (by omega)
    exact ⟨_, q, (after_append hfirst events).trans hafter, by rwa [Nat.add_right_comm] at hq,
      by omega, hwaiting'.trans hwaiting, hqueue'.trans hqueue⟩

end Ready

lemma ready_new (c : Config) (now : ℕ) : Ready c 0 (.new c now) :=
  ⟨accounts_new c now, fun _ _ => rfl, rfl, rfl⟩

/-! ## How long the queue gets -/

/-- Where the queue of a pool is limited, at most as many requests are in it as may wait, after
every history; even together with those that were handed a permit and have not gone on yet they
are no more.  As long as the pool is open, the queue is made up of the requests that wait.  Some
history fills it. -/
theorem queue_bounded (c : Config) (hlimit : 0 < c.maxWaiting) (now : ℕ) :
    (∀ events p, (Pool.new c now).after events = some p →
      p.queue.length ≤ p.tally Task.queued ∧ p.tally Task.queued ≤ p.tally Task.unserved ∧
        p.tally Task.unserved ≤ c.maxWaiting ∧
        (p.isClosed = false → p.queue.length = p.tally Task.queued)) ∧
      ∃ events p, (Pool.new c now).after events = some p ∧ p.queue.length = c.maxWaiting := by
  constructor
  · intro events p h
    have haccounts := accounts_after (accounts_new c now) h
    have hlined := lined_after (lined_new c now) (accounts_new c now) h
    exact ⟨length_le_tally_queued haccounts.calls haccounts.queue haccounts.queued,
      tally_queued_le_unserved p, hlined.limited hlimit, fun hopen => (hlined.waits hopen).symm⟩
  -- When all permits are lent, as many requests as may wait join the queue.
  · obtain ⟨loans, q, hloans, hq, hfree, hwaiting, hqueue⟩ :=
      (ready_new c now).after_loans (n := c.maxSize) le_rfl
    obtain ⟨p, hgets, -, -, -, hlength⟩ := hq.after_callGets (n := c.maxWaiting) (.inr (by
      rw [hwaiting]
      exact (Nat.zero_add _).le))
    refine ⟨_, p, (after_append hloans _).trans hgets, ?_⟩
    change _ = c.maxSize - c.maxSize at hfree
    rw [hlength, hqueue, hfree]
    change 0 + _ = _
    omega

/-- A pool for one connection in which one request may wait: the connection is lent, one request
is in the queue, and the next one is refused. -/
theorem queue_bounded_one :
    let c : Config := { minSize := 0, maxSize := 1, maxWaiting := 1 }
    let events : List Event := [.callGet 0, .created 0 none, .callGet 1, .callGet 2]
    0 < c.maxWaiting ∧ ∃ p, (Pool.new c 0).after events = some p ∧ p.queue = [1] ∧
      p.rejected = 1 ∧ p.tally Task.unserved ≤ 1 ∧ p.queue.length = p.tally Task.queued := by
  intro c events
  obtain ⟨p, hp⟩ : ∃ p, (Pool.new c 0).after events = some p :=
    Option.isSome_iff_exists.mp (by decide +kernel)
  have hseen : ((Pool.new c 0).after events).map (fun p => (p.queue, p.rejected, p.isClosed)) =
      some ([1], 1, false) := by decide +kernel
  rw [hp, Option.map_some, Option.some.injEq] at hseen
  simp only [Prod.mk.injEq] at hseen
  obtain ⟨hqueue, hrejected, hopen⟩ := hseen
  obtain ⟨-, -, hlimited, hwaits⟩ := (queue_bounded c (by decide) 0).1 events p hp
  exact ⟨by decide, p, hp, hqueue, hrejected, hlimited, hwaits hopen⟩

/-! ## Who is refused -/

lemma refused_iff (hlined : Lined c p) (haccounts : Accounts c 0 p) (id n : ℕ) :
    (p.startGet id).2 = some (id, .failed (.queueFull c.name n)) ↔
      p.isClosed = false ∧ 0 < c.maxWaiting ∧ p.free = 0 ∧ c.maxWaiting ≤ n ∧
        n = p.queue.length + p.tally Task.permits := by
  cases hclosed : p.isClosed with
  | true =>
    rw [startGet, if_pos hclosed]
    simp
  | false =>
    cases hfree : p.free with
    | succ free =>
      rw [startGet, if_neg (ne_true_of_eq_false hclosed), hfree]
      simp
    | zero =>
      have hwaiting : p.waiting = p.queue.length + p.tally Task.permits := by
        rw [haccounts.waiting, tally_requests, hlined.waits hclosed]
      rw [startGet_of_no_permit hclosed hfree, haccounts.config, ← hwaiting]
      split
      · rename_i hfull
        obtain ⟨hlimit, hle⟩ := any_waitingLimit_iff.mp hfull
        simp only [Option.some.injEq, Prod.mk.injEq, Outcome.failed.injEq, Error.queueFull.injEq,
          true_and]
        constructor
        · rintro rfl
          exact ⟨hlimit, hle, rfl⟩
        · exact fun h => h.2.2.symm
      · rename_i hroom
        rw [any_waitingLimit_iff] at hroom
        simp only [reduceCtorEq, false_iff]
        rintro ⟨-, hlimit, -, hle, rfl⟩
        exact hroom ⟨hlimit, hle⟩

/-- As many requests begin as a pool has permits, or as may wait, if that is more: those without a
permit wait, and the next one is refused. -/
lemma exists_refused (hsize : c.maxSize ≠ 0) (hlimit : c.maxWaiting ≠ 0) (now : ℕ) :
    ∃ events p id n, (Pool.new c now).after events = some p ∧ p.isUnused id = true ∧
      (p.startGet id).2 = some (id, .failed (.queueFull c.name n)) ∧
        p.queue.length < c.maxWaiting := by
  obtain ⟨p, hafter, hp, hfree, hwaiting, hqueue⟩ :=
    (ready_new c now).after_callGets (n := max c.maxSize c.maxWaiting) (by
      change _ ≤ c.maxSize ∨ 0 + _ ≤ _
      omega)
  change p.free = c.maxSize - _ at hfree
  change p.waiting = 0 + _ at hwaiting
  change p.queue.length = 0 + (_ - c.maxSize) at hqueue
  have hlined := lined_after (lined_new c now) (accounts_new c now) hafter
  have hrequests := hp.accounts.waiting
  rw [tally_requests, hlined.waits hp.isOpen] at hrequests
  refine ⟨_, p, _, p.waiting, hafter, hp.unused _ le_rfl, ?_, by omega⟩
  exact (refused_iff hlined hp.accounts _ _).mpr
    ⟨hp.isOpen, by omega, by omega, by omega, hrequests⟩

/-- A request is refused because of the queue exactly if the pool is open, the queue is limited, no
permit is free, and the requests in the queue and those that have a permit together are as many as
may wait; this is the number that the refusal names.  So whoever is refused finds as many requests
in the queue as may wait, in every history, exactly if requests never have permits, because the
pool may lend nothing, or the queue is not limited. -/
theorem refused_when_full_iff (c : Config) :
    ((∀ now events p, (Pool.new c now).after events = some p → ∀ id n, p.isUnused id = true →
      (p.startGet id).2 = some (id, .failed (.queueFull c.name n)) →
        c.maxWaiting ≤ p.queue.length) ↔ c.maxSize = 0 ∨ c.maxWaiting = 0) ∧
    ∀ now events p, (Pool.new c now).after events = some p → ∀ id n,
      (p.startGet id).2 = some (id, .failed (.queueFull c.name n)) ↔
        p.isClosed = false ∧ 0 < c.maxWaiting ∧ p.free = 0 ∧ c.maxWaiting ≤ n ∧
          n = p.queue.length + p.tally Task.permits := by
  have hrefused : ∀ now events p, (Pool.new c now).after events = some p → ∀ id n,
      (p.startGet id).2 = some (id, .failed (.queueFull c.name n)) ↔ _ :=
    fun now events p h => refused_iff (lined_after (lined_new c now) (accounts_new c now) h)
      (accounts_after (accounts_new c now) h)
  refine ⟨⟨fun hfull => ?_, fun hnone now events p h id n _ hrefusal => ?_⟩, hrefused⟩
  · by_contra hsome
    rw [not_or] at hsome
    obtain ⟨events, p, id, n, hafter, hid, hrefusal, hshort⟩ := exists_refused hsome.1 hsome.2 0
    exact absurd (hfull 0 events p hafter id n hid hrefusal) (Nat.not_le_of_lt hshort)
  · obtain ⟨-, hlimit, -, hle, rfl⟩ := (hrefused now events p h id n).mp hrefusal
    have hpermits := (accounts_after (accounts_new c now) h).permits
    omega

/-- One connection is being opened, nobody is in the queue, and the next request is refused. -/
theorem refused_before_full :
    ∃ p, (Pool.new { minSize := 0, maxSize := 1, maxWaiting := 1 } 0).after [.callGet 0] = some p ∧
      p.queue = [] ∧ p.tally Task.queued = 0 ∧
      (p.startGet 1).2 = some (1, .failed (.queueFull "default" 1)) := ⟨_, rfl, rfl, rfl, rfl⟩

end BulkValues.Pool
