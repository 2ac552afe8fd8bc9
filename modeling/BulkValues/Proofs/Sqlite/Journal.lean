/-
# What becomes of statements

A journal of a connection lists the statements that were run and not undone: those that nothing
can undo any more, and behind them those that belong to the open transaction.  It is kept beside a
session from the events and their answers alone.  What the connection stores is what comes of
running the statements of its journal again, so that a statement keeps its effect exactly as long
as it stays in the journal.

A statement that is run directly while somebody's transaction is open is listed behind it, and its
fate is that of the transaction.
-/
import BulkValues.Proofs.Sqlite.Transaction
import Mathlib

namespace BulkValues.Sqlite

/-- A statement that was run. -/
structure Ran where
  /-- Its text. -/
  sql : String
  /-- The values of its parameters. -/
  parameters : List Value

namespace Engine

variable {τ : Type}

/-- What is stored when a statement is run again. -/
def rerun (e : Engine τ) (stored : τ) (r : Ran) : Option τ :=
  match e.prepare r.sql stored with
  | .error _ => none
  | .ok p => (p.run (r.parameters.map Stored.ofValue) stored).toOption.map Effect.stored

/-- What is stored when statements are run again, one after the other. -/
def replay (e : Engine τ) (stored : τ) (ran : List Ran) : Option τ := ran.foldlM e.rerun stored

variable {e : Engine τ} {initial stored stored' : τ} {kept more : List Ran} {r : Ran}

lemma replay_append (h : e.replay initial kept = some stored) :
    e.replay initial (kept ++ more) = e.replay stored more := by
  rw [replay, List.foldlM_append, ← replay, h]
  rfl

lemma replay_snoc (h : e.replay initial kept = some stored)
    (hrerun : e.rerun stored r = some stored') :
    e.replay initial (kept ++ [r]) = some stored' := by
  rw [replay_append h, replay, List.foldlM_cons, hrerun]
  rfl

end Engine

/-! ## Journals -/

/-- The statements that were run and not undone. -/
structure Journal where
  /-- Those that nothing can undo. -/
  kept : List Ran
  /-- Those of the open transaction. -/
  pending : Option (List Ran)

namespace Journal

/-- All statements, in the order in which they were run. -/
def entries (j : Journal) : List Ran := j.kept ++ j.pending.getD []

/-- A transaction begins. -/
def start (j : Journal) : Journal := ⟨j.entries, some []⟩

/-- A statement was run. -/
def add (j : Journal) (r : Ran) : Journal :=
  match j.pending with
  | none => ⟨j.kept ++ [r], none⟩
  | some rs => ⟨j.kept, some (rs ++ [r])⟩

/-- The transaction is committed. -/
def commit (j : Journal) : Journal := ⟨j.entries, none⟩

/-- The transaction is undone. -/
def undo (j : Journal) : Journal := ⟨j.kept, none⟩

/-- The journal after an event with its answer. A commit that is refused undoes the
transaction. -/
def record (j : Journal) : Event → Answer → Journal
  | .start, .started _ => j.start
  | .direct _ sql parameters, .ran _ => j.add ⟨sql, parameters⟩
  | .inside _ _ sql parameters, .ran _ => j.add ⟨sql, parameters⟩
  | .batch sql, .done => j.add ⟨sql, []⟩
  | .commit _, .done => j.commit
  | .commit _, .failed _ => j.undo
  | .rollback _, .done => j.undo
  | .drop _, .done => j.undo
  | _, _ => j

variable (j : Journal) (r : Ran)

@[simp] lemma entries_add : (j.add r).entries = j.entries ++ [r] := by
  rcases j with ⟨kept, _ | rs⟩
  · simp [add, entries]
  · simp [add, entries]

lemma kept_prefix_entries : j.kept <+: j.entries := List.prefix_append ..

lemma kept_prefix_add : j.kept <+: (j.add r).kept := by
  rcases j with ⟨kept, _ | rs⟩
  · exact List.prefix_append ..
  · exact List.prefix_rfl

lemma undo_add (hpending : j.pending ≠ none) : (j.add r).undo = j.undo := by
  rcases j with ⟨kept, _ | rs⟩
  · exact absurd rfl hpending
  · rfl

end Journal

/-- A session with the journal of what was run in it. -/
structure Recorded (τ : Type) where
  /-- The session. -/
  session : Session τ
  /-- Its journal. -/
  journal : Journal

namespace Recorded

variable {τ : Type}

/-- A connection that was just opened, with interruptions to come. -/
def opened (stored : τ) (faults : List (Option Refusal)) : Recorded τ :=
  ⟨{ Session.opened stored with faults := faults }, ⟨[], none⟩⟩

/-- What comes of an event is written into the journal. -/
def step (e : Engine τ) (r : Recorded τ) (event : Event) : Recorded τ :=
  ⟨(r.session.step e event).2, r.journal.record event (r.session.step e event).1⟩

/-- A list of events, one after the other. -/
def after (e : Engine τ) (r : Recorded τ) (events : List Event) : Recorded τ :=
  events.foldl (step e) r

variable {e : Engine τ} {initial : τ} {r r' : Recorded τ}

/-- The journal does not interfere with the session. -/
lemma session_after (events : List Event) :
    (r.after e events).session = (r.session.run e events).2 := by
  induction events generalizing r with
  | nil => rfl
  | cons event events ih => exact ih

/-! ## What an event does -/

/-- The ways in which a session and its journal change together. -/
inductive Change (e : Engine τ) (r r' : Recorded τ) : Prop
  /-- Nothing of the kind happens. -/
  | nothing (saved : r'.session.saved = r.session.saved)
      (alive : r'.session.alive = r.session.alive) (stored : r'.session.stored = r.session.stored)
      (journal : r'.journal = r.journal)
  /-- A statement is run. -/
  | ran (statement : Ran) (saved : r'.session.saved = r.session.saved)
      (alive : r'.session.alive = r.session.alive)
      (stored : e.rerun r.session.stored statement = some r'.session.stored)
      (journal : r'.journal = r.journal.add statement)
  /-- A transaction begins. -/
  | began (handle : ℕ) (outside : r.session.saved = none)
      (saved : r'.session.saved = some r.session.stored)
      (alive : r'.session.alive = handle :: r.session.alive)
      (stored : r'.session.stored = r.session.stored) (journal : r'.journal = r.journal.start)
  /-- The transaction is committed. -/
  | committed (handle : ℕ) (used : handle ∈ r.session.alive) (saved : r'.session.saved = none)
      (alive : r'.session.alive = r.session.alive.erase handle)
      (stored : r'.session.stored = r.session.stored) (journal : r'.journal = r.journal.commit)
  /-- The transaction is undone. -/
  | undone (handle : ℕ) (used : handle ∈ r.session.alive) (saved : r'.session.saved = none)
      (alive : r'.session.alive = r.session.alive.erase handle)
      (stored : r.session.saved = some r'.session.stored) (journal : r'.journal = r.journal.undo)

/-- What the connection stores is what comes of its journal, and what a rollback goes back to is
what comes of the kept part. Its one handle is that of the open transaction. -/
inductive Faithful (e : Engine τ) (initial : τ) (r : Recorded τ) : Prop
  | outside (pending : r.journal.pending = none) (saved : r.session.saved = none)
      (alive : r.session.alive = [])
      (kept : e.replay initial r.journal.kept = some r.session.stored)
  | inside (rs : List Ran) (before : τ) (handle : ℕ) (pending : r.journal.pending = some rs)
      (saved : r.session.saved = some before) (alive : r.session.alive = [handle])
      (kept : e.replay initial r.journal.kept = some before)
      (open_ : e.replay before rs = some r.session.stored)

lemma Faithful.saved_ne_none (h : Faithful e initial r) {handle : ℕ}
    (hhandle : handle ∈ r.session.alive) : ∃ before, r.session.saved = some before := by
  cases h with
  | outside pending saved alive kept =>
    rw [alive] at hhandle
    cases hhandle
  | inside rs before handle pending saved alive kept open_ => exact ⟨before, saved⟩

section Events

variable {fetch : Bool} {sql : String} {parameters : List Value} {s s' : Session τ}

/-- A statement that is run could be run again; one that is refused has stored nothing. -/
lemma statement_reruns {answer : Except Error QueryResult}
    (h : s.statement e fetch sql parameters = (answer, s')) :
    s'.saved = s.saved ∧ s'.alive = s.alive ∧
      Settles answer (e.rerun s.stored ⟨sql, parameters⟩ = some s'.stored)
        (s'.stored = s.stored) := by
  rw [Session.statement] at h
  rcases hprepare : e.prepare sql s.stored with refusal | p
  · simp only [hprepare] at h
    cases h
    exact ⟨rfl, rfl, rfl⟩
  · simp only [hprepare] at h
    split at h
    · cases h
      exact ⟨rfl, rfl, rfl⟩
    · have hrerun : e.rerun s.stored ⟨sql, parameters⟩ =
          (p.run (parameters.map Stored.ofValue) s.stored).toOption.map Effect.stored := by
        simp only [Engine.rerun, hprepare]
      rcases hinterruption : s.interruption with ⟨_ | refusal, s₁⟩
      · obtain ⟨hframe, hstored, -⟩ := Session.interruption_spec hinterruption
        rcases hrun : p.run (parameters.map Stored.ofValue) s.stored with refusal | effect
        · simp only [hinterruption, hstored, hrun] at h
          cases h
          exact ⟨hframe.saved, hframe.alive, rfl⟩
        · simp only [hinterruption, hstored, hrun] at h
          cases h
          refine ⟨hframe.saved, hframe.alive, ?_⟩
          rw [hrerun, hrun]
          rfl
      · obtain ⟨hframe, hstored, -⟩ := Session.interruption_spec hinterruption
        simp only [hinterruption] at h
        cases h
        exact ⟨hframe.saved, hframe.alive, hstored⟩

/-- So it is with a statement without parameters and rows. -/
lemma batch_reruns {answer : Answer} (h : s.batch e sql = (answer, s')) :
    s'.saved = s.saved ∧ s'.alive = s.alive ∧
      (answer = .done ∧ e.rerun s.stored ⟨sql, []⟩ = some s'.stored ∨
        (∃ reason, answer = .failed reason) ∧ s'.stored = s.stored) := by
  rw [Session.batch] at h
  rcases hprepare : e.prepare sql s.stored with refusal | p
  · simp only [hprepare] at h
    cases h
    exact ⟨rfl, rfl, .inr ⟨⟨_, rfl⟩, rfl⟩⟩
  · simp only [hprepare] at h
    rcases hinterruption : s.interruption with ⟨_ | refusal, s₁⟩
    · obtain ⟨hframe, hstored, -⟩ := Session.interruption_spec hinterruption
      rcases hrun : p.run [] s.stored with refusal | effect
      · simp only [hinterruption, hstored, hrun] at h
        cases h
        exact ⟨hframe.saved, hframe.alive, .inr ⟨⟨_, rfl⟩, rfl⟩⟩
      · simp only [hinterruption, hstored, hrun] at h
        cases h
        refine ⟨hframe.saved, hframe.alive, .inl ⟨rfl, ?_⟩⟩
        simp only [Engine.rerun, hprepare, List.map_nil, hrun]
        rfl
    · obtain ⟨hframe, hstored, -⟩ := Session.interruption_spec hinterruption
      simp only [hinterruption] at h
      cases h
      exact ⟨hframe.saved, hframe.alive, .inr ⟨⟨_, rfl⟩, hstored⟩⟩

end Events

variable {answer : Answer} {s' : Session τ}

lemma change_start (h : r.session.start = (answer, s')) :
    Change e r ⟨s', r.journal.record .start answer⟩ := by
  rw [Session.start, Session.beginCommand] at h
  rcases hinterruption : r.session.interruption with ⟨_ | refusal, s₁⟩
  · obtain ⟨hframe, hstored, -⟩ := Session.interruption_spec hinterruption
    rcases hsaved : s₁.saved with _ | before
    · simp only [hinterruption, hsaved] at h
      cases h
      exact .began s₁.given (hframe.saved.symm.trans hsaved) (congrArg some hstored)
        (congrArg _ hframe.alive) hstored rfl
    · simp only [hinterruption, hsaved] at h
      cases h
      exact .nothing hframe.saved hframe.alive hstored rfl
  · obtain ⟨hframe, hstored, -⟩ := Session.interruption_spec hinterruption
    simp only [hinterruption] at h
    cases h
    exact .nothing hframe.saved hframe.alive hstored rfl

lemma change_statement {fetch : Bool} {sql : String} {parameters : List Value} {event : Event}
    (hran : ∀ result, r.journal.record event (.ran result) = r.journal.add ⟨sql, parameters⟩)
    (hfailed : ∀ reason, r.journal.record event (.failed reason) = r.journal)
    (h : Session.answerOf (r.session.statement e fetch sql parameters) = (answer, s')) :
    Change e r ⟨s', r.journal.record event answer⟩ := by
  rcases hstatement : r.session.statement e fetch sql parameters with ⟨reason | result, s₁⟩
  · obtain ⟨hsaved, halive, hstored⟩ := statement_reruns hstatement
    rw [hstatement] at h
    cases h
    exact .nothing hsaved halive hstored (hfailed reason)
  · obtain ⟨hsaved, halive, hrerun⟩ := statement_reruns hstatement
    rw [hstatement] at h
    cases h
    exact .ran _ hsaved halive hrerun (hran result)

lemma change_batch {sql : String} (h : r.session.batch e sql = (answer, s')) :
    Change e r ⟨s', r.journal.record (.batch sql) answer⟩ := by
  obtain ⟨hsaved, halive, ⟨rfl, hrerun⟩ | ⟨⟨reason, rfl⟩, hstored⟩⟩ := batch_reruns h
  · exact .ran _ hsaved halive hrerun rfl
  · exact .nothing hsaved halive hstored rfl

/-- A commit ends the transaction, also if it is refused: its handle rolls back then. -/
lemma change_commit {handle : ℕ} {before : τ} (hhandle : handle ∈ r.session.alive)
    (hsaved : r.session.saved = some before)
    (h : (r.session.forget handle).commit .unfinished = (answer, s')) :
    Change e r ⟨s', r.journal.record (.commit handle) answer⟩ := by
  simp only [Session.commit, Flags.unfinished, Bool.false_eq_true, if_false,
    Session.commitCommand] at h
  rcases hinterruption : (r.session.forget handle).interruption with ⟨_ | refusal, s₁⟩
  · obtain ⟨hframe, hstored, -⟩ := Session.interruption_spec hinterruption
    have hsaved₁ : s₁.saved = some before := hframe.saved.trans hsaved
    simp only [hinterruption, hsaved₁, Session.giveUp, Bool.true_or, if_true] at h
    cases h
    exact .committed handle hhandle rfl hframe.alive hstored rfl
  · obtain ⟨hframe, -, -⟩ := Session.interruption_spec hinterruption
    have hsaved₁ : s₁.saved = some before := hframe.saved.trans hsaved
    simp only [hinterruption, Session.giveUp, Session.rollbackCommand, hsaved₁] at h
    cases h
    exact .undone handle hhandle rfl hframe.alive hsaved rfl

lemma change_rollback {handle : ℕ} {before : τ} (hhandle : handle ∈ r.session.alive)
    (hsaved : r.session.saved = some before)
    (h : (r.session.forget handle).rollback .unfinished = (answer, s')) :
    Change e r ⟨s', r.journal.record (.rollback handle) answer⟩ := by
  simp only [Session.rollback, Flags.unfinished, Bool.false_eq_true, if_false,
    Session.rollbackCommand, Session.forget, hsaved] at h
  cases h
  exact .undone handle hhandle rfl rfl hsaved rfl

lemma change_drop {handle : ℕ} {before : τ} (hhandle : handle ∈ r.session.alive)
    (hsaved : r.session.saved = some before) :
    Change e r ⟨(r.session.forget handle).giveUp .unfinished,
      r.journal.record (.drop handle) .done⟩ := by
  simp only [Session.giveUp, Flags.unfinished, Session.rollbackCommand, Session.forget, hsaved]
  exact .undone handle hhandle rfl rfl hsaved rfl

/-- What an event does, whichever it is. -/
lemma change_step (hfaithful : Faithful e initial r) (event : Event) :
    Change e r (r.step e event) := by
  rcases hstep : r.session.step e event with ⟨answer, s'⟩
  simp only [step, hstep]
  -- An event that is turned away at the door leaves everything as it is.
  have hsame : ∀ reason, (answer, s') = (reason, r.session) →
      r.journal.record event reason = r.journal →
      Change e r ⟨s', r.journal.record event answer⟩ := by
    rintro reason ⟨rfl, rfl⟩ hjournal
    exact .nothing rfl rfl rfl hjournal
  cases event with
  | start =>
    rw [Session.step, Session.ifOpen] at hstep
    split at hstep
    · exact hsame _ hstep.symm rfl
    · exact change_start hstep
  | direct fetch sql parameters =>
    rw [Session.step, Session.ifOpen] at hstep
    split at hstep
    · exact hsame _ hstep.symm rfl
    · exact change_statement (fun _ => rfl) (fun _ => rfl) hstep
  | inside handle fetch sql parameters =>
    rw [Session.step, Session.through] at hstep
    split at hstep
    · exact change_statement (fun _ => rfl) (fun _ => rfl) hstep
    · exact hsame _ hstep.symm rfl
  | batch sql =>
    rw [Session.step, Session.ifOpen] at hstep
    split at hstep
    · exact hsame _ hstep.symm rfl
    · exact change_batch hstep
  | commit handle =>
    rw [Session.step, Session.through] at hstep
    split at hstep
    · rename_i hhandle
      obtain ⟨before, hsaved⟩ := hfaithful.saved_ne_none hhandle
      exact change_commit hhandle hsaved hstep
    · exact hsame _ hstep.symm rfl
  | rollback handle =>
    rw [Session.step, Session.through] at hstep
    split at hstep
    · rename_i hhandle
      obtain ⟨before, hsaved⟩ := hfaithful.saved_ne_none hhandle
      exact change_rollback hhandle hsaved hstep
    · exact hsame _ hstep.symm rfl
  | drop handle =>
    rw [Session.step, Session.through] at hstep
    split at hstep
    · rename_i hhandle
      obtain ⟨before, hsaved⟩ := hfaithful.saved_ne_none hhandle
      cases hstep
      exact change_drop hhandle hsaved
    · exact hsame _ hstep.symm rfl
  | close =>
    cases hstep
    exact .nothing rfl rfl rfl rfl

/-! ## What a history keeps -/

lemma faithful_opened (initial : τ) (faults : List (Option Refusal)) :
    Faithful e initial (opened initial faults) := .outside rfl rfl rfl rfl

lemma faithful_of_change (h : Faithful e initial r) (hchange : Change e r r') :
    Faithful e initial r' := by
  cases h with
  | outside pending saved alive kept =>
    cases hchange with
    | nothing saved' alive' stored' journal' =>
      exact .outside (journal' ▸ pending) (saved'.trans saved) (alive'.trans alive)
        (by rw [journal', stored', kept])
    | ran statement saved' alive' stored' journal' =>
      rw [Journal.add, pending] at journal'
      refine .outside (by rw [journal']) (saved'.trans saved) (alive'.trans alive) ?_
      rw [journal', Engine.replay_snoc kept stored']
    | began handle outside saved' alive' stored' journal' =>
      rw [Journal.start, Journal.entries, pending] at journal'
      refine .inside [] r.session.stored handle (by rw [journal']) saved'
        (by rw [alive', alive]) ?_ ?_
      · rw [journal']
        simpa using kept
      · rw [stored']
        rfl
    | committed handle used saved' alive' stored' journal' =>
      rw [alive] at used
      cases used
    | undone handle used saved' alive' stored' journal' =>
      rw [alive] at used
      cases used
  | inside rs before handle pending saved alive kept open_ =>
    cases hchange with
    | nothing saved' alive' stored' journal' =>
      exact .inside rs before handle (journal' ▸ pending) (saved'.trans saved)
        (alive'.trans alive) (by rw [journal', kept]) (by rw [stored', open_])
    | ran statement saved' alive' stored' journal' =>
      rw [Journal.add, pending] at journal'
      refine .inside (rs ++ [statement]) before handle (by rw [journal']) (saved'.trans saved)
        (alive'.trans alive) (by rw [journal', kept]) (Engine.replay_snoc open_ stored')
    | began handle outside saved' alive' stored' journal' =>
      rw [saved] at outside
      cases outside
    | committed handle' used saved' alive' stored' journal' =>
      rw [Journal.commit, Journal.entries, pending] at journal'
      rw [alive, List.mem_singleton] at used
      refine .outside (by rw [journal']) saved' (by simp [alive', alive, used]) ?_
      rw [journal', stored', Option.getD_some, Engine.replay_append kept, open_]
    | undone handle' used saved' alive' stored' journal' =>
      rw [Journal.undo] at journal'
      rw [alive, List.mem_singleton] at used
      rw [saved] at stored'
      refine .outside (by rw [journal']) saved' (by simp [alive', alive, used]) ?_
      rw [journal', kept, stored']

lemma faithful_after (h : Faithful e initial r) (events : List Event) :
    Faithful e initial (r.after e events) := by
  induction events generalizing r with
  | nil => exact h
  | cons event events ih => exact ih (faithful_of_change h (change_step h event))

/-- What the connection stores comes of its journal. -/
lemma Faithful.replay_entries (h : Faithful e initial r) :
    e.replay initial r.journal.entries = some r.session.stored := by
  cases h with
  | outside pending saved alive kept => simpa [Journal.entries, pending] using kept
  | inside rs before handle pending saved alive kept open_ =>
    rw [Journal.entries, pending, Option.getD_some, Engine.replay_append kept, open_]

/-- Nothing undoes a statement that is kept. -/
lemma kept_prefix_of_change (h : Change e r r') : r.journal.kept <+: r'.journal.kept := by
  cases h with
  | nothing saved alive stored journal => rw [journal]
  | ran statement saved alive stored journal =>
    rw [journal]
    exact r.journal.kept_prefix_add statement
  | began handle outside saved alive stored journal =>
    rw [journal]
    exact r.journal.kept_prefix_entries
  | committed handle used saved alive stored journal =>
    rw [journal]
    exact r.journal.kept_prefix_entries
  | undone handle used saved alive stored journal =>
    rw [journal]
    exact List.prefix_rfl

lemma kept_prefix_after (h : Faithful e initial r) (events : List Event) :
    r.journal.kept <+: (r.after e events).journal.kept := by
  induction events generalizing r with
  | nil => exact List.prefix_rfl
  | cons event events ih =>
    have hchange := change_step h event
    exact (kept_prefix_of_change hchange).trans (ih (faithful_of_change h hchange))

/-- Outside of a transaction everything is kept. -/
lemma entries_prefix_after (h : Faithful e initial r) (houtside : r.journal.pending = none)
    (events : List Event) : r.journal.entries <+: (r.after e events).journal.entries := by
  have hentries : r.journal.entries = r.journal.kept := by simp [Journal.entries, houtside]
  rw [hentries]
  exact (kept_prefix_after h events).trans (Journal.kept_prefix_entries _)

/-! ## Statements that are run directly -/

lemma step_direct {fetch : Bool} {sql : String} {parameters : List Value} {result : QueryResult}
    (hran : (r.session.step e (.direct fetch sql parameters)).1 = .ran result) :
    (r.step e (.direct fetch sql parameters)).session.saved = r.session.saved ∧
      (r.step e (.direct fetch sql parameters)).session.alive = r.session.alive ∧
      (r.step e (.direct fetch sql parameters)).journal = r.journal.add ⟨sql, parameters⟩ := by
  have hjournal : (r.step e (.direct fetch sql parameters)).journal =
      r.journal.add ⟨sql, parameters⟩ := by
    rw [step, hran]
    rfl
  have hopen : r.session.isClosed = false := by
    by_contra hclosed
    rw [Session.step, Session.ifOpen, if_pos (by simpa using hclosed)] at hran
    cases hran
  rcases hstatement : r.session.statement e fetch sql parameters with ⟨answer, s'⟩
  obtain ⟨hsaved, halive, -⟩ := statement_reruns hstatement
  have hsession : (r.step e (.direct fetch sql parameters)).session = s' := by
    simp only [step, Session.step, Session.ifOpen, hopen, hstatement]
    cases answer with
    | error reason => rfl
    | ok result => rfl
  rw [hsession]
  exact ⟨hsaved, halive, hjournal⟩

/-- Giving up the handle of the open transaction goes back to where it began. -/
lemma step_undo {handle : ℕ} {before : τ} {event : Event} (hhandle : handle ∈ r.session.alive)
    (hsaved : r.session.saved = some before)
    (hevent : event ∈ [Event.rollback handle, .drop handle]) :
    (r.step e event).journal = r.journal.undo ∧ (r.step e event).session.stored = before := by
  simp only [List.mem_cons, List.not_mem_nil, or_false] at hevent
  rcases hevent with rfl | rfl
  · simp [step, Session.step, Session.through, hhandle, Session.rollback, Flags.unfinished,
      Session.rollbackCommand, Session.forget, hsaved, Session.answerTo, Session.giveUp,
      Journal.record]
  · simp [step, Session.step, Session.through, hhandle, Flags.unfinished,
      Session.rollbackCommand, Session.forget, hsaved, Session.giveUp, Journal.record]

/-- A statement of the open transaction is undone with it. -/
lemma not_entries_prefix {handle : ℕ} {rs : List Ran} {before : τ} (statement : Ran)
    (halive : handle ∈ r.session.alive) (hsaved : r.session.saved = some before)
    (hpending : r.journal.pending = some (rs ++ [statement])) :
    ¬ r.journal.entries <+: (r.after e [.drop handle]).journal.entries := by
  intro hprefix
  have hevent : Event.drop handle ∈ [Event.rollback handle, .drop handle] := by simp
  obtain ⟨hundo, -⟩ := step_undo (e := e) halive hsaved hevent
  have hafter : (r.after e [.drop handle]).journal = r.journal.undo := hundo
  have hbefore : r.journal.entries.length = r.journal.kept.length + (rs.length + 1) := by
    simp [Journal.entries, hpending]
  have hundone : r.journal.undo.entries.length = r.journal.kept.length := by
    simp [Journal.entries, Journal.undo]
  have hlength := hprefix.length_le
  rw [hafter, hbefore, hundone] at hlength
  omega

/-- A statement that was run directly is kept, whatever happens afterwards, exactly if no
transaction was open.  Otherwise it belongs to the open one: it is kept if that is committed, and
if that is undone nothing of the statement is left.  What a connection stores comes of the
statements that are in its journal, so that an entry of the journal is an effect that is kept. -/
theorem direct_kept_iff (e : Engine τ) (initial : τ) (faults : List (Option Refusal))
    (before : List Event) :
    let r := (opened initial faults).after e before
    e.replay initial r.journal.entries = some r.session.stored ∧
    ∀ fetch sql parameters result,
      (r.session.step e (.direct fetch sql parameters)).1 = .ran result →
      let r' := r.step e (.direct fetch sql parameters)
      r'.journal.entries = r.journal.entries ++ [⟨sql, parameters⟩] ∧
      ((∀ rest, r'.journal.entries <+: (r'.after e rest).journal.entries) ↔
        r.session.inTransaction = false) ∧
      ∀ handle ∈ r.session.alive,
        ((r'.session.step e (.commit handle)).1 = .done →
          ∀ rest, r'.journal.entries <+:
            ((r'.step e (.commit handle)).after e rest).journal.entries) ∧
        ∀ event ∈ [Event.rollback handle, .drop handle],
          (r'.step e event).journal = (r.step e event).journal ∧
          (r'.step e event).session.stored = (r.step e event).session.stored := by
  intro r
  have hfaithful : Faithful e initial r := faithful_after (faithful_opened initial faults) before
  refine ⟨hfaithful.replay_entries, fun fetch sql parameters result hran => ?_⟩
  intro r'
  obtain ⟨hsaved, halive, hjournal⟩ :
      r'.session.saved = r.session.saved ∧ r'.session.alive = r.session.alive ∧
        r'.journal = r.journal.add ⟨sql, parameters⟩ := step_direct hran
  have hfaithful' : Faithful e initial r' :=
    faithful_of_change hfaithful (change_step hfaithful _)
  refine ⟨by rw [hjournal, Journal.entries_add], ?_, ?_⟩
  · cases hfaithful with
    | outside pending saved alive kept =>
      have hpending : r'.journal.pending = none := by rw [hjournal, Journal.add, pending]
      have houtside : r.session.inTransaction = false := by simp [Session.inTransaction, saved]
      exact iff_of_true (fun rest => entries_prefix_after hfaithful' hpending rest) houtside
    | inside rs start handle pending saved alive kept open_ =>
      have hpending : r'.journal.pending = some (rs ++ [⟨sql, parameters⟩]) := by
        rw [hjournal, Journal.add, pending]
      have hinside : ¬ r.session.inTransaction = false := by simp [Session.inTransaction, saved]
      refine iff_of_false (fun hkept => ?_) hinside
      exact not_entries_prefix _ (by rw [halive, alive]; exact List.mem_singleton_self handle)
        (hsaved.trans saved) hpending (hkept [.drop handle])
  · intro handle hhandle
    obtain ⟨start, hstart⟩ := hfaithful.saved_ne_none hhandle
    have hhandle' : handle ∈ r'.session.alive := by rwa [halive]
    constructor
    · intro hdone rest
      have hcommit : (r'.step e (.commit handle)).journal = r'.journal.commit := by
        rw [step, hdone]
        rfl
      have hentries : (r'.step e (.commit handle)).journal.entries = r'.journal.entries := by
        simp [hcommit, Journal.commit, Journal.entries]
      rw [← hentries]
      exact entries_prefix_after (faithful_of_change hfaithful' (change_step hfaithful' _))
        (by rw [hcommit, Journal.commit]) rest
    · intro event hevent
      obtain ⟨hundo', hstored'⟩ := step_undo (e := e) hhandle' (hsaved.trans hstart) hevent
      obtain ⟨hundo, hstored⟩ := step_undo (e := e) hhandle hstart hevent
      refine ⟨?_, hstored'.trans hstored.symm⟩
      rw [hundo', hundo, hjournal, Journal.undo_add]
      cases hfaithful with
      | outside pending saved alive kept => simp [saved] at hstart
      | inside rs start handle pending saved alive kept open_ => simp [pending]

/-- A row is put in directly while somebody's transaction is open, which is rolled back: the
statement was run and changed a row, and the table is empty. -/
theorem direct_undone_by_rollback :
    let r := (opened (some []) []).after Catalog.engine [.start]
    let event : Event := .direct false "INSERT INTO items VALUES (1, 'a', NULL)" []
    let r' := r.step Catalog.engine event
    r.session.alive = [0] ∧
      (r.session.step Catalog.engine event).1 = .ran ⟨[], [], 1⟩ ∧
      r'.session.stored = some [⟨1, .text "a", .null⟩] ∧
      r'.journal.entries = [⟨"INSERT INTO items VALUES (1, 'a', NULL)", []⟩] ∧
      (r'.step Catalog.engine (.rollback 0)).session.stored = some [] ∧
      (r'.step Catalog.engine (.rollback 0)).journal.entries = [] := by
  exact ⟨rfl, by cbv, by cbv, by cbv, by cbv, by cbv⟩

end Recorded

end BulkValues.Sqlite
