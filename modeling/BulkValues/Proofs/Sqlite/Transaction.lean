/-
# The transaction of a batch

A batch on a connection is inside its transaction or outside of it.  Inside, its handle is alive
and the copy that a rollback goes back to is what was stored when the batch began.  Statements
keep this, whether they are accepted or not.  The end of the transaction uses it up: a rollback
restores the copy, and so does the handle of a commit that is refused when it is given up.
-/
import BulkValues.Proofs.Except
import BulkValues.Proofs.Sqlite.Insertion
import BulkValues.Sqlite.Batch

namespace BulkValues.Sqlite

open BulkValues.Batch

variable {τ : Type} {e : Engine τ} {before : τ}

/-! ## Statements inside a transaction -/

namespace Session

/-- What a statement cannot change: the transaction and its handles. Interruptions are used
up. -/
structure Frame (s s' : Session τ) : Prop where
  saved : s'.saved = s.saved
  alive : s'.alive = s.alive
  faults : s.faults = [] → s'.faults = []

lemma Frame.refl (s : Session τ) : Frame s s := ⟨rfl, rfl, id⟩

lemma interruption_spec {s s' : Session τ} {f : Option Refusal}
    (h : s.interruption = (f, s')) :
    Frame s s' ∧ s'.stored = s.stored ∧ (s.faults = [] → f = none) := by
  rw [interruption] at h
  split at h
  · cases h
    exact ⟨.refl s, rfl, fun _ => rfl⟩
  · rename_i f rest hfaults
    cases h
    exact ⟨⟨rfl, rfl, fun h => by rw [hfaults] at h; cases h⟩, rfl,
      fun h => by rw [hfaults] at h; cases h⟩

/-- A statement does what the engine makes of it, or nothing. -/
lemma statement_spec {fetch : Bool} {sql : String} {s s' : Session τ}
    {answer : Except Error QueryResult} (h : s.statement e fetch sql [] = (answer, s')) :
    Frame s s' ∧
      Settles answer (e.after sql s.stored = some s'.stored)
        (s.faults = [] → e.after sql s.stored = none) := by
  rw [statement] at h
  rcases hprepare : e.prepare sql s.stored with r | p
  · simp only [hprepare] at h
    cases h
    exact ⟨.refl s, fun _ => by rw [Engine.after, hprepare]⟩
  · by_cases hparameters : p.parameters = 0
    · simp only [hprepare, hparameters, List.length_nil, ne_eq, not_true, if_false,
        List.map_nil] at h
      have hafter : e.after sql s.stored = (p.run [] s.stored).toOption.map Effect.stored := by
        simp only [Engine.after, hprepare, hparameters, if_true]
      rcases hinterruption : s.interruption with ⟨_ | r, s₁⟩
      · obtain ⟨hframe, hstored, -⟩ := interruption_spec hinterruption
        rcases hrun : p.run [] s.stored with r | effect
        · simp only [hinterruption, hstored, hrun] at h
          cases h
          exact ⟨⟨hframe.saved, hframe.alive, hframe.faults⟩, fun _ => by rw [hafter, hrun]; rfl⟩
        · simp only [hinterruption, hstored, hrun] at h
          cases h
          refine ⟨⟨hframe.saved, hframe.alive, hframe.faults⟩, ?_⟩
          rw [hafter, hrun]
          rfl
      · obtain ⟨hframe, -, hnone⟩ := interruption_spec hinterruption
        simp only [hinterruption] at h
        cases h
        refine ⟨⟨hframe.saved, hframe.alive, hframe.faults⟩, fun hfaults => ?_⟩
        cases hnone hfaults
    · simp only [hprepare, List.length_nil, ne_eq, Ne.symm hparameters, not_false_eq_true,
        if_true] at h
      cases h
      exact ⟨.refl s, fun _ => by simp only [Engine.after, hprepare, hparameters, if_false]⟩

end Session

namespace BatchRun

/-- The batch is inside its transaction, which began with what was stored `before`. -/
structure Inside (before : τ) (r : BatchRun τ) : Prop where
  handle : ∃ h, r.handle = some h ∧ h ∈ r.session.alive
  saved : r.session.saved = some before

/-- The batch is outside of a transaction, with something stored. -/
structure Outside (stored : τ) (r : BatchRun τ) : Prop where
  saved : r.session.saved = none
  stored : r.session.stored = stored

variable {keeps : Bool} {o : Options} {r r' : BatchRun τ}

lemma start_spec {s : Session τ} (hsaved : s.saved = none) {answer : Except Error Unit}
    (h : (database e keeps).start (.fresh s) = (answer, r')) :
    Settles answer
      (Inside s.stored r' ∧ r'.session.stored = s.stored ∧ s.isClosed = false ∧
        (s.faults = [] → r'.session.faults = []))
      (Outside s.stored r' ∧ (s.faults = [] → s.isClosed = true)) := by
  simp only [database, act, fresh, Session.step, Session.ifOpen] at h
  by_cases hclosed : s.isClosed = true
  · simp only [hclosed, if_true, outcome] at h
    cases h
    exact ⟨⟨hsaved, rfl⟩, fun _ => hclosed⟩
  · simp only [hclosed, if_false, Session.start, Session.beginCommand, Bool.false_eq_true] at h
    rcases hinterruption : s.interruption with ⟨_ | refusal, s₁⟩
    · obtain ⟨hframe, hstored, -⟩ := Session.interruption_spec hinterruption
      have hsaved₁ := hframe.saved.trans hsaved
      simp only [hinterruption, hsaved₁] at h
      cases h
      exact ⟨⟨⟨_, rfl, List.mem_cons_self⟩, congrArg some hstored⟩, hstored,
        by simpa using hclosed, hframe.faults⟩
    · obtain ⟨hframe, hstored, hnone⟩ := Session.interruption_spec hinterruption
      simp only [hinterruption, outcome] at h
      cases h
      exact ⟨⟨hframe.saved.trans hsaved, hstored⟩, fun hfaults => nomatch hnone hfaults⟩

lemma runPage_spec {sql : String} {answer : Except Error (List Row)} (hinside : Inside before r)
    (h : runPage (database e keeps) o sql r = (answer, r')) :
    Inside before r' ∧ (r.session.faults = [] → r'.session.faults = []) ∧
      Settles answer (e.after sql r.session.stored = some r'.session.stored)
        (r.session.faults = [] → e.after sql r.session.stored = none) := by
  obtain ⟨⟨handle, hhandle, halive⟩, hsaved⟩ := hinside
  simp only [runPage, database, through, hhandle, act, Session.step, Session.through, halive,
    if_true] at h
  rcases hstatement : r.session.statement e o.fetch sql [] with ⟨reason | result, s₁⟩
  · obtain ⟨hframe, hafter⟩ := Session.statement_spec hstatement
    simp only [hstatement, Session.answerOf, outcome, Except.map] at h
    cases h
    exact ⟨⟨⟨handle, rfl, hframe.alive ▸ halive⟩, hframe.saved.trans hsaved⟩,
      hframe.faults, hafter⟩
  · obtain ⟨hframe, hafter⟩ := Session.statement_spec hstatement
    simp only [hstatement, Session.answerOf, Except.map] at h
    cases h
    exact ⟨⟨⟨handle, rfl, hframe.alive ▸ halive⟩, hframe.saved.trans hsaved⟩,
      hframe.faults, hafter⟩

/-- A commit that is refused is undone when its handle is given up. -/
lemma commit_spec {answer : Except Error Unit} (hinside : Inside before r)
    (h : (database e keeps).commit r = (answer, r')) :
    Settles answer (Outside r.session.stored r')
      (Outside before r' ∧ r.session.faults ≠ []) := by
  obtain ⟨⟨handle, hhandle, halive⟩, hsaved⟩ := hinside
  simp only [database, through, hhandle, act, Session.step, Session.through, halive, if_true,
    Session.commit, Flags.unfinished, Bool.false_eq_true, if_false, Session.commitCommand] at h
  rcases hinterruption : (r.session.forget handle).interruption with ⟨_ | refusal, s₁⟩
  · obtain ⟨hframe, hstored, -⟩ := Session.interruption_spec hinterruption
    have hsaved₁ := hframe.saved.trans hsaved
    simp only [hinterruption, hsaved₁, Session.giveUp, outcome] at h
    cases h
    exact ⟨rfl, hstored⟩
  -- The flags do not say that the handle was finished, and it rolls back when it is given up.
  · obtain ⟨hframe, -, hnone⟩ := Session.interruption_spec hinterruption
    have hsaved₁ := hframe.saved.trans hsaved
    simp only [hinterruption, hsaved₁, Session.giveUp, Session.rollbackCommand, outcome] at h
    cases h
    exact ⟨⟨rfl, rfl⟩, fun hfaults => by cases hnone hfaults⟩

/-- A rollback restores the copy, and its handle does not roll back again. -/
lemma outside_rollback (hinside : Inside before r) :
    Outside before ((database e keeps).rollback r).2 := by
  obtain ⟨⟨handle, hhandle, halive⟩, hsaved⟩ := hinside
  simp only [database, through, hhandle, act, Session.step, Session.through, halive, if_true,
    Session.rollback, Flags.unfinished, Bool.false_eq_true, if_false, Session.rollbackCommand,
    Session.forget, hsaved, Session.answerTo, Session.giveUp]
  exact ⟨rfl, rfl⟩

lemma outside_abort (failed : Option String) (hinside : Inside before r) :
    Outside before (abort (database e keeps) o failed r) := by
  have hrollback : Outside before ((database e keeps).rollback r).2 := outside_rollback hinside
  cases failed with
  | none => exact hrollback
  | some sql =>
    simp only [abort]
    split
    -- Keeping the statement does not touch the connection.
    · rw [database]
      split
      · exact ⟨hrollback.saved, hrollback.stored⟩
      · exact hrollback
    · exact hrollback

end BatchRun

end BulkValues.Sqlite
