/-
# Closing a pool

A closed pool begins nothing and takes nothing back, and its idle connections only get fewer, but
for one kind of call: opening up front asks once whether the pool is closed, when it begins, and
puts every connection that it opens among the idle ones.  What was still to be opened when the
pool was closed is therefore all that can be left in it, and it stays there.

The bound counts the idle connections together with those that are still to be opened: an opening
turns one of the latter into one of the former, and no other event of a closed pool adds to either.
-/
import BulkValues.Proofs.Pool.Capacity

namespace BulkValues.Pool

/-- A pool is closed, and at most so many connections are idle or still to be opened in it. -/
structure Shut (limit : ℕ) (p : Pool) : Prop where
  closed : p.isClosed = true
  bound : p.idle.length + p.tally Task.missing ≤ limit

variable {c : Config} {loose limit id : ℕ} {p q : Pool} {t : Task} {e : Entry} {deadline : ℕ}
  {phase : Phase}

@[simp] lemma isClosed_releasePermit (p : Pool) : p.releasePermit.isClosed = p.isClosed := by
  rw [releasePermit]
  split <;> rfl

@[simp] lemma isClosed_quit (p : Pool) (id : ℕ) (phase : Phase) :
    (p.quit id phase).isClosed = p.isClosed := by
  rw [quit]
  split
  · simp [removeTask]
  · rfl

@[simp] lemma isClosed_search (p : Pool) (id : ℕ) : (p.search id).isClosed = p.isClosed := by
  rw [search]
  split
  · rfl
  · split <;> rfl

/-! ## What happens in a closed pool -/

namespace Shut

lemma of_le (h : Shut limit p) (hclosed : q.isClosed = p.isClosed)
    (hle : q.idle.length + q.tally Task.missing ≤ p.idle.length + p.tally Task.missing) :
    Shut limit q :=
  ⟨hclosed.trans h.closed, hle.trans h.bound⟩

lemma quit (h : Shut limit p) (haccounts : Accounts c loose p)
    (ht : p.task? id = some (.get deadline phase)) : Shut limit (p.quit id phase) := by
  have hmissing : (p.quit id phase).tally Task.missing + 0 = p.tally Task.missing :=
    haccounts.tally_quit ht fun _ => rfl
  refine h.of_le (by simp) ?_
  rw [idle_quit]
  omega

lemma search (h : Shut limit p) (haccounts : Accounts c loose p)
    (ht : p.task? id = some (.get deadline phase)) : Shut limit (p.search id) := by
  obtain ⟨phase', -, hidle, -, htally⟩ := search_effect haccounts.calls ht
  have hmissing : (p.search id).tally Task.missing = p.tally Task.missing := htally Task.missing
  refine h.of_le (by simp) ?_
  rw [hidle, hmissing, List.length_tail]
  omega

/-- A call ends, or goes on with fewer connections to open. -/
lemma setTask (h : Shut limit p) (haccounts : Accounts c loose p) (t' : Task)
    (ht : p.task? id = some t) (hmissing : t'.missing = t.missing) :
    Shut limit (p.setTask id t') := by
  have htally := tally_setTask haccounts.calls ht Task.missing t'
  refine h.of_le rfl ?_
  change p.idle.length + _ ≤ _
  omega

lemma removeTask (h : Shut limit p) (haccounts : Accounts c loose p)
    (ht : p.task? id = some t) : Shut limit (p.removeTask id) := by
  have htally := tally_removeTask haccounts.calls ht Task.missing
  refine h.of_le rfl ?_
  change p.idle.length + _ ≤ _
  omega

lemma startCloseIdle (h : Shut limit p) : Shut limit (p.startCloseIdle id).1 := by
  rw [Pool.startCloseIdle]
  split
  · exact h
  · refine h.of_le rfl ?_
    rw [tally_addTask]
    change 0 + (p.tally Task.missing + 0) ≤ _
    omega

/-- A connection that comes back is given up. -/
lemma takeBack (h : Shut limit p) (haccounts : Accounts c loose p)
    (hlent : p.lent.lookup id = some e) : Shut limit (p.takeBack id e) := by
  have hmissing := (haccounts.endLoan hlent).1.tally_releasePermit (f := Task.missing) fun _ => rfl
  have heq : p.takeBack id e =
      { p with active := p.active - 1, lent := p.lent.filter fun l => l.1 ≠ id }.releasePermit := by
    rw [Pool.takeBack, h.closed]
    rfl
  rw [heq]
  refine h.of_le (by simp) ?_
  rw [idle_releasePermit, hmissing]
  exact le_rfl

end Shut

/-- Nothing that happens in a closed pool adds connections to those that are idle or still to be
opened. -/
lemma shut_step {event : Event} {next : Pool × Result} (h : Shut limit p)
    (haccounts : Accounts c 0 p) (hstep : p.step event = some next) : Shut limit next.1 := by
  cases effect_of_step hstep with
  | openStarted id =>
    rw [startOpen, h.closed]
    exact h
  | getStarted id =>
    rw [startGet, h.closed]
    exact h
  | closeIdleStarted id => exact h.startCloseIdle
  | closeStarted id =>
    rw [startClose, h.closed]
    exact h
  | searched ht hopen => exact h.search haccounts ht
  | refused ht hphase hclosed => exact h.quit haccounts ht
  | approved ht => exact ⟨h.closed, (h.removeTask haccounts ht).bound⟩
  | disapproved ht =>
    rename_i deadline e
    rw [setPhase_eq_setTask (p := { p with discarded := p.discarded + 1 }) haccounts.calls ht]
    have hset := h.setTask haccounts (.get deadline (.discarding e)) ht rfl
    exact ⟨hset.closed, hset.bound⟩
  | discarded ht =>
    rename_i e
    have hframe := haccounts.frame p.now p.isClosed (p.closedConnections ++ [e.connection])
      p.discarded p.timedOut p.rejected
    exact Shut.search ⟨h.closed, h.bound⟩ hframe ht
  | notCreated ht failure => exact h.quit haccounts ht
  | created ht => exact ⟨h.closed, (h.removeTask haccounts ht).bound⟩
  | notOpened ht failure => exact h.removeTask haccounts ht
  -- A connection that was still to be opened is idle now.
  | openedLast ht =>
    have htally := tally_removeTask haccounts.calls ht Task.missing
    refine h.of_le rfl ?_
    change (p.idle ++ [p.fresh]).length + (p.removeTask _).tally Task.missing ≤ _
    rw [List.length_append, List.length_singleton, ← htally, Task.missing]
    omega
  | openedNext ht hmore =>
    rename_i id missing
    have htally := tally_setTask haccounts.calls ht Task.missing (.open missing)
    simp only [Task.missing] at htally
    refine h.of_le rfl ?_
    change (p.idle ++ [p.fresh]).length + (p.setTask id (.open missing)).tally Task.missing ≤ _
    rw [List.length_append, List.length_singleton]
    omega
  | closedLast ht => exact ⟨h.closed, (h.removeTask haccounts ht).bound⟩
  | closedNext ht hrest =>
    rename_i rest
    have hset := h.setTask haccounts (.close rest) ht rfl
    exact ⟨hset.closed, hset.bound⟩
  | expired ht hdeadline => exact ⟨(h.quit haccounts ht).closed, (h.quit haccounts ht).bound⟩
  | requestAbandoned ht => exact h.quit haccounts ht
  | callAbandoned ht hget => exact h.removeTask haccounts ht
  | givenBack hlent => exact h.takeBack haccounts hlent
  | connectionClosed connection => exact ⟨h.closed, h.bound⟩
  | passed ms => exact ⟨h.closed, h.bound⟩

lemma shut_after {events : List Event} (h : Shut limit p) (haccounts : Accounts c 0 p)
    (hafter : p.after events = some q) : Shut limit q := by
  induction events generalizing p with
  | nil =>
    cases hafter
    exact h
  | cons event events ih =>
    obtain ⟨next, hadmits, hstep, hrest⟩ := after_cons hafter
    exact ih (shut_step h haccounts hstep) (accounts_step haccounts hadmits hstep) hrest

/-! ## The moment of closing -/

/-- Closing leaves what is still to be opened. -/
lemma shut_startClose (hopen : p.isClosed = false) (id : ℕ) :
    Shut (p.tally Task.missing) (p.startClose id).1 := by
  rw [startClose, hopen, startCloseIdle.eq_def]
  simp only [Bool.false_eq_true, if_false]
  split
  · rename_i hidle
    refine ⟨rfl, ?_⟩
    change p.idle.length + p.tally Task.missing ≤ _
    rw [show p.idle = [] from hidle, List.length_nil, Nat.zero_add]
  · refine ⟨rfl, ?_⟩
    rw [tally_addTask]
    change 0 + (p.tally Task.missing + 0) ≤ _
    omega

/-- Only closing a pool closes it. -/
lemma isClosed_step {event : Event} {next : Pool × Result} (hstep : p.step event = some next)
    (hevent : ∀ id, event ≠ .callClose id) : next.1.isClosed = p.isClosed := by
  cases effect_of_step hstep with
  | openStarted id =>
    rw [startOpen]
    split
    · rfl
    · split <;> rfl
  | getStarted id =>
    rw [startGet]
    split
    · rfl
    · split
      · split <;> rfl
      · simp [addTask]
  | closeIdleStarted id =>
    rw [startCloseIdle]
    split <;> rfl
  | closeStarted id => exact absurd rfl (hevent id)
  | givenBack hlent =>
    rw [takeBack]
    split
    · simp
    · split <;> simp
  | _ => simp [setPhase, setTask, removeTask, lend]

/-- A pool that is closed after a history was closed at some point of it. -/
lemma exists_closing {events : List Event} (hopen : p.isClosed = false)
    (hafter : p.after events = some q) (hclosed : q.isClosed = true) :
    ∃ before id rest q₀, events = before ++ .callClose id :: rest ∧
      p.after before = some q₀ ∧ q₀.isClosed = false := by
  induction events generalizing p with
  | nil =>
    cases hafter
    rw [hopen] at hclosed
    cases hclosed
  | cons event events ih =>
    by_cases hclose : ∃ id, event = .callClose id
    · obtain ⟨id, rfl⟩ := hclose
      exact ⟨[], id, events, p, rfl, rfl, hopen⟩
    · obtain ⟨next, hadmits, hstep, hrest⟩ := after_cons hafter
      have hstill := isClosed_step hstep fun id heq => hclose ⟨id, heq⟩
      obtain ⟨before, id, rest, q₀, rfl, hbefore, hq₀⟩ := ih (hstill.trans hopen) hrest
      refine ⟨event :: before, id, rest, q₀, rfl, ?_, hq₀⟩
      rw [after_cons_of_step hadmits hstep, hbefore]

/-- What is idle or still to be opened after a pool was closed was still to be opened then. -/
lemma shut_after_close {events : List Event} (haccounts : Accounts c 0 p)
    (hopen : p.isClosed = false) (hafter : p.after (.callClose id :: events) = some q) :
    Shut (p.tally Task.missing) q := by
  obtain ⟨next, hadmits, hstep, hrest⟩ := after_cons hafter
  have haccounts' := accounts_step haccounts hadmits hstep
  cases hstep
  exact shut_after (shut_startClose hopen id) haccounts' hrest

/-! ## Openings that go on -/

/-- Opening up front goes on until nothing is missing. -/
lemma after_openings {n : ℕ} (htasks : p.tasks = [(id, .open (n + 1))]) :
    ∃ q, p.after (.replicate (n + 1) (.created id none)) = some q ∧ q.tasks = [] ∧
      q.lent = p.lent ∧ q.isClosed = p.isClosed ∧ q.idle.length = p.idle.length + (n + 1) := by
  have ht : p.task? id = some (.open (n + 1)) := by simp [task?, htasks]
  induction n generalizing p with
  | zero =>
    have hstep : p.step (.created id none) = some
        ({ p with created := p.created + 1, idle := p.idle ++ [p.fresh] }.removeTask id,
          some (id, .opened)) := by
      rw [step, ht]
      rfl
    exact ⟨_, after_cons_of_step rfl hstep [], by simp [removeTask, htasks], rfl, rfl,
      by simp [removeTask]⟩
  | succ n ih =>
    have hstep : p.step (.created id none) = some
        ({ p with created := p.created + 1, idle := p.idle ++ [p.fresh] }.setTask id
          (.open (n + 1)), none) := by
      rw [step, ht]
      rfl
    obtain ⟨q, hafter, htasks', hlent, hclosed, hidle⟩ := ih
      (p := { p with created := p.created + 1, idle := p.idle ++ [p.fresh] }.setTask id
        (.open (n + 1))) (by simp [setTask, htasks]) (by simp [task?, setTask, htasks])
    refine ⟨q, ?_, htasks', hlent, hclosed, ?_⟩
    · rw [List.replicate_succ, after_cons_of_step rfl hstep]
      exact hafter
    · rw [hidle]
      simp [setTask]
      omega

/-- A pool that keeps connections can be closed while it opens them, and then keeps them all. -/
lemma exists_unclosed (hmin : c.minSize ≠ 0) (now : ℕ) :
    ∃ events p, (Pool.new c now).after events = some p ∧ p.isClosed = true ∧ p.tasks = [] ∧
      p.lent = [] ∧ p.idle.length = c.minSize := by
  obtain ⟨n, hn⟩ := Nat.exists_eq_succ_of_ne_zero hmin
  have hopening : (Pool.new c now).step (.callOpen 0) =
      some ((Pool.new c now).addTask 0 (.open (n + 1)), none) := by
    rw [step, startOpen]
    simp [Pool.new, hn]
  have hclosing : ((Pool.new c now).addTask 0 (.open (n + 1))).step (.callClose 1) =
      some ({ (Pool.new c now).addTask 0 (.open (n + 1)) with isClosed := true, queue := [] },
        some (1, .closed)) := rfl
  obtain ⟨p, hafter, htasks, hlent, hclosed, hidle⟩ := after_openings (n := n)
    (p := { (Pool.new c now).addTask 0 (.open (n + 1)) with isClosed := true, queue := [] }) rfl
  refine ⟨.callOpen 0 :: .callClose 1 :: .replicate (n + 1) (.created 0 none), p, ?_, hclosed,
    htasks, hlent, ?_⟩
  · rw [after_cons_of_step rfl hopening, after_cons_of_step rfl hclosing, hafter]
  · rw [hidle, hn]
    exact Nat.zero_add _

/-- A closed pool in which nothing is under way or lent any more is empty, in every history,
exactly if the pool keeps no connections.  In any pool the idle connections are at most those
that were still to be opened up front when it was closed; and once nothing is still to be opened
their number only falls, so that an empty pool stays empty. -/
theorem closed_empty_iff (c : Config) :
    ((∀ now events p, (Pool.new c now).after events = some p → p.isClosed = true →
      p.tasks = [] → p.lent = [] → p.idle = []) ↔ c.minSize = 0) ∧
    ∀ now before p, (Pool.new c now).after before = some p →
      (p.isClosed = false → ∀ id rest q, p.after (.callClose id :: rest) = some q →
        q.isClosed = true ∧ q.idle.length ≤ p.tally Task.missing) ∧
      (p.isClosed = true → p.tasks = [] → ∀ rest q, p.after rest = some q →
        q.isClosed = true ∧ q.idle.length ≤ p.idle.length) := by
  refine ⟨⟨fun hempty => ?_, fun hmin now events p hafter hclosed _ _ => ?_⟩, ?_⟩
  · by_contra hmin
    obtain ⟨events, p, hafter, hclosed, htasks, hlent, hidle⟩ := exists_unclosed hmin 0
    rw [hempty 0 events p hafter hclosed htasks hlent] at hidle
    exact hmin hidle.symm
  · obtain ⟨before, id, rest, q, rfl, hbefore, hopen⟩ := exists_closing rfl hafter hclosed
    have haccounts := accounts_after (accounts_new c now) hbefore
    have hroom := room_after (room_new c now) (accounts_new c now) hbefore
    rw [after_append hbefore] at hafter
    have hbound := (shut_after_close haccounts hopen hafter).bound
    rw [hroom.unasked hmin] at hbound
    exact List.eq_nil_of_length_eq_zero (by omega)
  · intro now before p hbefore
    have haccounts := accounts_after (accounts_new c now) hbefore
    refine ⟨fun hopen id rest q hafter => ?_, fun hclosed htasks rest q hafter => ?_⟩
    · have hshut := shut_after_close haccounts hopen hafter
      have hbound := hshut.bound
      exact ⟨hshut.closed, by omega⟩
    · have hnone : p.tally Task.missing = 0 := by simp [tally, htasks]
      have hnow : Shut p.idle.length p := ⟨hclosed, by omega⟩
      have hshut := shut_after hnow haccounts hafter
      have hbound := hshut.bound
      exact ⟨hshut.closed, by omega⟩

/-- A pool is closed while a connection is opened up front, which is idle and open afterwards. -/
theorem opening_outlives_closing :
    ∃ p, (Pool.new { minSize := 1, maxSize := 1 } 0).after
        [.callOpen 0, .callClose 1, .created 0 none] = some p ∧
      p.isClosed = true ∧ p.tasks = [] ∧ p.lent = [] ∧ p.idle.map Entry.connection = [0] ∧
      p.isConnectionClosed 0 = false := ⟨_, rfl, rfl, rfl, rfl, rfl, rfl⟩

end BulkValues.Pool
