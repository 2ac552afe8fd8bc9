/-
# Transactions are exclusive

What is sent to the server falls into parts.  After a transaction has begun only its own
statements are sent, until one commit or rollback of it, after which nothing of it is sent.  A
transaction goes through this course because it holds the client from its beginning on and gives
it up only when its end was answered, so that no other call can act in between.
-/
import BulkValues.Proofs.Postgres.Holding
import Mathlib

namespace BulkValues.Postgres.Session

variable {s s' : Session} {id t : ℕ} {task : Task} {phase : Phase} {command : Command}

/-! ## What is sent after a transaction has begun -/

/-- A command of a statement in a transaction. -/
def IsStatementOf (t : ℕ) (entry : Owner × Command) : Prop :=
  entry.1 = .transaction t ∧ ∃ sql, entry.2 = .prepare sql ∨ entry.2 = .run sql

/-- How far a transaction has come that began when the log was `base`. -/
inductive Course (t : ℕ) (base : List (Owner × Command)) (s : Session) : Prop
  /-- It is alive. -/
  | going (body : List (Owner × Command)) (log : s.log = base ++ body)
      (statements : ∀ entry ∈ body, IsStatementOf t entry) (alive : t ∈ s.alive)
  /-- A call is about to end it. -/
  | ending (body : List (Owner × Command)) (id : ℕ) (task : Task) (log : s.log = base ++ body)
      (statements : ∀ entry ∈ body, IsStatementOf t entry)
      (acting : (id, task, .ready) ∈ s.acting) (isEnd : task.isEnd = true)
      (inside : task.transaction? = some t)
  /-- The connection was closed before its end could be sent. -/
  | cut (body : List (Owner × Command)) (log : s.log = base ++ body)
      (statements : ∀ entry ∈ body, IsStatementOf t entry) (closed : s.isClosed = true)
  /-- Its end was sent, and nothing of it can be sent any more. -/
  | ended (body : List (Owner × Command)) (command : Command) (rest : List (Owner × Command))
      (log : s.log = base ++ body ++ (.transaction t, command) :: rest)
      (statements : ∀ entry ∈ body, IsStatementOf t entry)
      (ends : command = .commit ∨ command = .rollback)
      (others : ∀ entry ∈ rest, entry.1 ≠ .transaction t) (alive : t ∉ s.alive)
      (past : ∀ c ∈ s.acting, c.2.1.owner c.1 = .transaction t →
        c.2.1.isEnd = true ∧ c.2.2 ≠ .ready)

/-- A call outside of transactions does not act for one that has begun. -/
lemma owner_ne (houtside : task.transaction? = none) (hunused : id ∉ s.begun)
    (hbegun : t ∈ s.begun) : task.owner id ≠ .transaction t := by
  obtain ⟨fetch, sql, rfl⟩ | rfl := Task.direct_or_start houtside
  · exact nofun
  · rintro ⟨⟩
    exact hunused hbegun

lemma mem_acting_release (h : Listed s) {c : ℕ × Task × Phase} (hc : c ∈ s.release.acting) :
    c ∈ s.acting ∨ c.2.1.transaction? = none ∧ c.1 ∉ s.begun := by
  obtain ⟨-, heq⟩ | ⟨id, task, rest, -, hmem, -, heq⟩ := h.release_eq
  · rw [heq] at hc
    exact .inl hc
  · rw [heq, acting_ready, List.mem_append, List.mem_singleton] at hc
    rcases hc with hc | rfl
    · exact .inl (List.mem_of_mem_filter hc)
    · have houtside := h.outside _ hmem
      exact .inr ⟨houtside, h.unused (id, task, .waiting) (mem_queued.mp hmem).1 houtside⟩

lemma mem_acting_leave (h : Listed s) (hacting : (id, task, phase) ∈ s.acting)
    {c : ℕ × Task × Phase} (hc : c ∈ (s.leave id task).acting) :
    c ∈ s.acting ∨ c.2.1.transaction? = none ∧ c.1 ∉ s.begun := by
  have hwithout := h.without (h.queue_of_acting hacting)
  have hfilter : ∀ c ∈ (s.without id).acting, c ∈ s.acting := by
    intro c hc
    rw [acting_without] at hc
    exact List.mem_of_mem_filter hc
  rw [leave] at hc
  split at hc
  · exact .inl (hfilter c hc)
  · exact (mem_acting_release hwithout hc).imp_left (hfilter c)

lemma begun_of_move (hmove : Move s s') (hbegun : t ∈ s.begun) : t ∈ s'.begun := by
  cases hmove with
  | began id task found => exact List.mem_cons_of_mem _ hbegun
  | left id task phase found acts => rwa [begun_leave]
  | _ => exact hbegun

variable {base : List (Owner × Command)}

/-- A transaction that is alive sends statements, until it is to be ended. -/
lemma course_of_going (hheld : Held s) (hmove : Move s s')
    {body : List (Owner × Command)} (hlog : s.log = base ++ body)
    (hstatements : ∀ entry ∈ body, IsStatementOf t entry) (halive : t ∈ s.alive) :
    Course t base s' := by
  obtain ⟨hholder, honly, hacting⟩ := hheld.of_alive halive
  cases hmove with
  | refused => exact .going body hlog hstatements halive
  | closed => exact .going body hlog hstatements halive
  | admitted id task new outside unused free =>
    rw [hholder] at free
    cases free
  | delayed id task new outside unused => exact .going body hlog hstatements halive
  | joined id transaction fetch sql new used => exact .going body hlog hstatements halive
  | parted id transaction task new inside isEnd used idle =>
    rw [honly, List.mem_singleton] at used
    subst used
    refine .ending body id task hlog hstatements ?_ isEnd inside
    rw [acting_ready]
    exact List.mem_append_right _ (List.mem_singleton_self _)
  | sent id task phase command found next open_ =>
    obtain ⟨fetch, sql, htask⟩ := hacting _ (mem_acting_of_next found next)
    cases htask
    have hstatement : IsStatementOf t (Task.owner id (.inside t fetch sql), command) := by
      rcases next with ⟨-, rfl⟩ | ⟨sql', -, rfl⟩
      · exact ⟨rfl, sql, .inl rfl⟩
      · exact ⟨rfl, sql', .inr rfl⟩
    refine .going (body ++ [(.transaction t, command)]) ?_ (fun entry hentry => ?_) halive
    · rw [log_setPhase, hlog, List.append_assoc]
      rfl
    · rw [List.mem_append, List.mem_singleton] at hentry
      rcases hentry with hentry | rfl
      · exact hstatements entry hentry
      · exact hstatement
  | began id task found =>
    exact .going body hlog hstatements (List.mem_cons_of_mem _ halive)
  | left id task phase found acts =>
    exact .going body (by rw [log_leave, hlog]) hstatements (by rwa [alive_leave])

/-- A call that is to end a transaction does so, unless the connection is closed. -/
lemma course_of_ending (hheld : Held s) (hmove : Move s s')
    {body : List (Owner × Command)} (hlog : s.log = base ++ body)
    (hstatements : ∀ entry ∈ body, IsStatementOf t entry)
    (hacting : (id, task, .ready) ∈ s.acting) (hend : task.isEnd = true)
    (hinside : task.transaction? = some t) : Course t base s' := by
  obtain ⟨honly, halive⟩ := hheld.of_isEnd hacting hend
  cases hmove with
  | refused => exact .ending body id task hlog hstatements hacting hend hinside
  | closed => exact .ending body id task hlog hstatements hacting hend hinside
  | admitted id' task' new outside unused free =>
    rw [(hheld.of_holder_none free).1] at hacting
    cases hacting
  | delayed id' task' new outside unused =>
    refine .ending body id task hlog hstatements ?_ hend hinside
    rw [acting_setPhase_waiting]
    change _ ∈ s.acting.filter _
    rwa [acting_of_new new]
  | joined id' transaction fetch sql new used =>
    rw [halive] at used
    cases used
  | parted id' transaction task' new inside isEnd used idle =>
    rw [halive] at used
    cases used
  | sent id' task' phase command found next open_ =>
    have hmem := mem_acting_of_next found next
    rw [honly, List.mem_singleton] at hmem
    cases hmem
    obtain ⟨-, rfl⟩ | ⟨sql, hphase, -⟩ := next
    · refine .ended body task.firstCommand [] ?_ hstatements (Task.firstCommand_of_isEnd hend)
        nofun (by simp [halive]) ?_
      · rw [log_setPhase, hlog, Task.owner_of_transaction hinside]
      · intro c hc _
        rw [acting_sent, List.mem_append, List.mem_singleton] at hc
        rcases hc with hc | rfl
        · change c ∈ s.acting.filter _ at hc
          simp [honly] at hc
        · exact ⟨hend, nofun⟩
    · cases hphase
  | began id' task' found =>
    have hmem := mem_acting_of_call? found nofun
    rw [honly, List.mem_singleton] at hmem
    cases hmem
  | left id' task' phase found acts =>
    have hmem := mem_acting_of_acts found acts
    rw [honly, List.mem_singleton] at hmem
    cases hmem
    obtain ⟨-, hclosed⟩ | ⟨command, hphase⟩ := acts
    · exact .cut body (by rw [log_leave, hlog]) hstatements (by rwa [isClosed_leave])
    · cases hphase

/-- After the end of a transaction only others send. -/
lemma course_of_ended (h : Listed s) (hmove : Move s s') (hbegun : t ∈ s.begun)
    {body rest : List (Owner × Command)}
    (hlog : s.log = base ++ body ++ (.transaction t, command) :: rest)
    (hstatements : ∀ entry ∈ body, IsStatementOf t entry)
    (hends : command = .commit ∨ command = .rollback)
    (hothers : ∀ entry ∈ rest, entry.1 ≠ .transaction t) (halive : t ∉ s.alive)
    (hpast : ∀ c ∈ s.acting, c.2.1.owner c.1 = .transaction t →
      c.2.1.isEnd = true ∧ c.2.2 ≠ .ready) : Course t base s' := by
  -- A call that is ready for its first command does not act for the transaction.
  have hready : ∀ {s₁ : Session} {id : ℕ} {task : Task},
      s₁.acting = s.acting.filter (fun c => c.1 ≠ id) ++ [(id, task, .ready)] →
      task.owner id ≠ .transaction t → ∀ c ∈ s₁.acting, c.2.1.owner c.1 = .transaction t →
        c.2.1.isEnd = true ∧ c.2.2 ≠ .ready := by
    intro s₁ id task hacting hne c hc howner
    rw [hacting, List.mem_append, List.mem_singleton] at hc
    rcases hc with hc | rfl
    · exact hpast c (List.mem_of_mem_filter hc) howner
    · exact absurd howner hne
  cases hmove with
  | refused => exact .ended body command rest hlog hstatements hends hothers halive hpast
  | closed => exact .ended body command rest hlog hstatements hends hothers halive hpast
  | admitted id task new outside unused free =>
    exact .ended body command rest hlog hstatements hends hothers halive
      (hready acting_ready (owner_ne outside unused hbegun))
  | delayed id task new outside unused =>
    refine .ended body command rest hlog hstatements hends hothers halive fun c hc => ?_
    rw [acting_setPhase_waiting] at hc
    exact hpast c (List.mem_of_mem_filter hc)
  | joined id transaction fetch sql new used =>
    refine .ended body command rest hlog hstatements hends hothers halive
      (hready acting_ready ?_)
    rintro ⟨⟩
    exact halive used
  | parted id transaction task new inside isEnd used idle =>
    refine .ended body command rest hlog hstatements hends hothers ?_ (hready acting_ready ?_)
    · exact fun hmem => halive (List.mem_of_mem_erase hmem)
    · rw [Task.owner_of_transaction inside]
      rintro ⟨⟩
      exact halive used
  | sent id task phase command' found next open_ =>
    have hmem := mem_acting_of_next found next
    have hne : task.owner id ≠ .transaction t := by
      intro howner
      obtain ⟨hend, hphase⟩ := hpast _ hmem howner
      rcases next with ⟨rfl, -⟩ | ⟨sql, rfl, -⟩
      · exact hphase rfl
      -- The end of a transaction is not prepared.
      · have hprepare := Task.firstCommand_of_sends_prepare
          (h.sends _ (mem_calls_of_call? found) _ rfl)
        rcases Task.firstCommand_of_isEnd hend with hfirst | hfirst
        · rw [hfirst] at hprepare
          cases hprepare
        · rw [hfirst] at hprepare
          cases hprepare
    refine .ended body command (rest ++ [(task.owner id, command')]) ?_ hstatements hends ?_
      halive ?_
    · rw [log_setPhase, hlog, List.append_assoc, List.append_assoc, List.append_assoc]
      rfl
    · intro entry hentry
      rw [List.mem_append, List.mem_singleton] at hentry
      rcases hentry with hentry | rfl
      · exact hothers entry hentry
      · exact hne
    · intro c hc howner
      rw [acting_sent, List.mem_append, List.mem_singleton] at hc
      rcases hc with hc | rfl
      · exact hpast c (List.mem_of_mem_filter hc) howner
      · exact absurd howner hne
  | began id task found =>
    have hcalls := mem_calls_of_call? found
    have htask : task = .start := Task.eq_start_of_sends (h.sends _ hcalls _ rfl)
    subst htask
    refine .ended body command rest hlog hstatements hends hothers ?_ fun c hc => ?_
    · change t ∉ id :: s.alive
      rw [List.mem_cons, not_or]
      refine ⟨?_, halive⟩
      rintro rfl
      exact h.unused _ hcalls rfl hbegun
    · rw [acting_without] at hc
      exact hpast c (List.mem_of_mem_filter hc)
  | left id task phase found acts =>
    refine .ended body command rest (by rw [log_leave, hlog]) hstatements hends hothers
      (by rwa [alive_leave]) fun c hc howner => ?_
    rcases mem_acting_leave h (mem_acting_of_acts found acts) hc with hc | ⟨houtside, hunused⟩
    · exact hpast c hc howner
    · exact absurd howner (owner_ne houtside hunused hbegun)

/-- On a closed connection nothing is sent. -/
lemma course_of_cut (hmove : Move s s') {body : List (Owner × Command)}
    (hlog : s.log = base ++ body) (hstatements : ∀ entry ∈ body, IsStatementOf t entry)
    (hclosed : s.isClosed = true) : Course t base s' := by
  cases hmove with
  | sent id task phase command found next open_ =>
    rw [hclosed] at open_
    cases open_
  | closed => exact .cut body hlog hstatements rfl
  | left id task phase found acts =>
    exact .cut body (by rw [log_leave, hlog]) hstatements (by rwa [isClosed_leave])
  | _ => exact .cut body hlog hstatements hclosed

lemma course_of_move (h : Listed s) (hheld : Held s) (hbegun : t ∈ s.begun)
    (hcourse : Course t base s) (hmove : Move s s') : Course t base s' := by
  cases hcourse with
  | going body log statements alive => exact course_of_going hheld hmove log statements alive
  | ending body id task log statements acting isEnd inside =>
    exact course_of_ending hheld hmove log statements acting isEnd inside
  | cut body log statements closed => exact course_of_cut hmove log statements closed
  | ended body command rest log statements ends others alive past =>
    exact course_of_ended h hmove hbegun log statements ends others alive past

/-! ## Whole histories -/

lemma course_run {events : List SessionEvent} (h : Listed s) (hheld : Held s)
    (hbegun : t ∈ s.begun) (hcourse : Course t base s) (hrun : s.run events = some s') :
    Course t base s' := by
  induction events generalizing s with
  | nil =>
    cases hrun
    exact hcourse
  | cons event events ih =>
    obtain ⟨s₁, result, hstep, hrest⟩ := run_cons hrun
    have hmove := move_of_step hstep
    exact ih (listed_of_move h hmove) (held_of_move h hheld hmove) (begun_of_move hmove hbegun)
      (course_of_move h hheld hbegun hcourse hmove) hrest

/-- A transaction whose beginning is answered is on its course. -/
lemma course_of_answered {result : SessionResult}
    (hfound : s.call? id = some (.start, .sent .start))
    (hstep : s.step (.answered id none) = some (s', result)) :
    id ∈ s'.begun ∧ Course id s.log s' := by
  rw [step, hfound] at hstep
  cases hstep
  exact ⟨List.mem_cons_self, .going [] (List.append_nil _).symm
    (fun _ hentry => absurd hentry List.not_mem_nil) List.mem_cons_self⟩

/-- The beginning of a transaction that succeeds is followed by statements of this transaction
only, up to the one commit or rollback of it, and later by nothing of it.  As long as this end was
not sent, the transaction is alive or about to be ended, or the connection was closed. -/
theorem transactions_exclusive {before after : List SessionEvent} {s s' : Session} {id : ℕ}
    (hbefore : Session.run {} before = some s)
    (hsent : s.call? id = some (.start, .sent .start))
    (hafter : s.run (.answered id none :: after) = some s') :
    (∃ earlier, s.log = earlier ++ [(.transaction id, .start)]) ∧
    ∃ body later, s'.log = s.log ++ body ++ later ∧
      (∀ entry ∈ body, entry.1 = .transaction id ∧
        ∃ sql, entry.2 = .prepare sql ∨ entry.2 = .run sql) ∧
      (later = [] ∧ (id ∈ s'.alive ∨ s'.isClosed = true ∨
          ∃ call task, (call, task, .ready) ∈ s'.calls ∧ task.isEnd = true ∧
            task.transaction? = some id) ∨
        ∃ command rest, later = (.transaction id, command) :: rest ∧
          (command = .commit ∨ command = .rollback) ∧
          ∀ entry ∈ rest, entry.1 ≠ .transaction id) := by
  obtain ⟨hlisted, hheld⟩ := held_run listed_empty held_empty hbefore
  refine ⟨hheld.log_of_starting (mem_acting_of_call? hsent nofun), ?_⟩
  obtain ⟨s₁, result, hstep, hrest⟩ := run_cons hafter
  have hmove := move_of_step hstep
  obtain ⟨hbegun, hcourse⟩ := course_of_answered hsent hstep
  have hend := course_run (listed_of_move hlisted hmove) (held_of_move hlisted hheld hmove) hbegun
    hcourse hrest
  cases hend with
  | going body log statements alive =>
    exact ⟨body, [], by rw [List.append_nil, log], statements, .inl ⟨rfl, .inl alive⟩⟩
  | ending body call task log statements acting isEnd inside =>
    have hready := (mem_acting.mp acting).1
    exact ⟨body, [], by rw [List.append_nil, log], statements,
      .inl ⟨rfl, .inr (.inr ⟨call, task, hready, isEnd, inside⟩)⟩⟩
  | cut body log statements closed =>
    exact ⟨body, [], by rw [List.append_nil, log], statements, .inl ⟨rfl, .inr (.inl closed)⟩⟩
  | ended body command rest log statements ends others alive past =>
    exact ⟨body, _, log, statements, .inr ⟨command, rest, rfl, ends, others⟩⟩

/-- A direct statement waits while a transaction is given up and rolled back. -/
theorem transactions_exclusive_unwound :
    let before : List SessionEvent := [.call 1 .start, .proceed 1]
    let after : List SessionEvent := [.call 2 (.direct true "SELECT"),
      .call 3 (.inside 1 false "DELETE"), .proceed 3, .answered 3 none, .answered 3 none,
      .call 4 (.unwind 1), .proceed 4, .answered 4 none, .proceed 2]
    let s : Session :=
      { holder := some (.transaction 1)
        calls := [(1, .start, .sent .start)]
        log := [(.transaction 1, .start)] }
    let s' : Session :=
      { holder := some (.call 2)
        calls := [(2, .direct true "SELECT", .sent (.prepare "SELECT"))]
        begun := [1]
        log := s.log ++ [(.transaction 1, .prepare "DELETE"), (.transaction 1, .run "DELETE")] ++
          [(.transaction 1, .rollback), (.call 2, .prepare "SELECT")] }
    (Session.run {} before = some s ∧ s.call? 1 = some (.start, .sent .start) ∧
      s.run (.answered 1 none :: after) = some s') ∧
    (∃ earlier, s.log = earlier ++ [(.transaction 1, .start)]) ∧
    ∃ body later, s'.log = s.log ++ body ++ later ∧ ∀ entry ∈ body, entry.1 = .transaction 1 := by
  intro before after s s'
  have hbefore : Session.run {} before = some s := rfl
  have hafter : s.run (.answered 1 none :: after) = some s' := by cbv
  obtain ⟨hlog, body, later, hparts, hbody, -⟩ := transactions_exclusive hbefore rfl hafter
  exact ⟨⟨hbefore, rfl, hafter⟩, hlog, body, later, hparts, fun entry hentry =>
    (hbody entry hentry).1⟩

end BulkValues.Postgres.Session
