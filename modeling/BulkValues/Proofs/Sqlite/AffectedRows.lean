/-
# Whose changed rows are counted

A connection remembers one number of changed rows.  Every statement that is there to change rows
sets it: to the number of rows that it changed, or to zero if it is refused while it runs.  A
statement that only reads leaves it as it is, and still answers with it.

So the number in an answer is that of the latest statement of the connection that is there to
change rows, whoever ran it and whether it has been undone in the meantime.  That is the answering
statement itself if it is one of them.  If it only reads it changes no rows, and its answer says so
exactly if the latest of the others changed none either.
-/
import BulkValues.Proofs.Sqlite.Journal

namespace BulkValues.Sqlite

/-- The statement that an event asks to run. -/
def Event.statement? : Event → Option Ran
  | .direct _ sql parameters | .inside _ _ sql parameters => some ⟨sql, parameters⟩
  | .batch sql => some ⟨sql, []⟩
  | _ => none

/-- The result that an answer brings. -/
def Answer.result? : Answer → Option QueryResult
  | .ran result => some result
  | _ => none

namespace Session

variable {τ : Type}

/-- A statement and its parameters, prepared for what is stored. -/
def ready? (e : Engine τ) (s : Session τ) (sql : String) (parameters : List Value) :
    Option (Prepared τ × List Stored) :=
  match e.prepare sql s.stored with
  | .error _ => none
  | .ok p =>
    if parameters.length = p.parameters then some (p, parameters.map Stored.ofValue) else none

/-- The prepared statement that an event runs, with the values of its parameters, unless the event
is turned away before. -/
def running? (e : Engine τ) (s : Session τ) : Event → Option (Prepared τ × List Stored)
  | .direct _ sql parameters => if s.isClosed then none else s.ready? e sql parameters
  | .inside handle _ sql parameters =>
    if handle ∈ s.alive then s.ready? e sql parameters else none
  | .batch sql =>
    if s.isClosed then none
    else match e.prepare sql s.stored with
      | .error _ => none
      | .ok p => some (p, [])
  | _ => none

/-- How many rows a prepared statement changes; none if it is refused while it runs. -/
def changedBy (s : Session τ) (p : Prepared τ) (given : List Stored) : ℕ :=
  match s.interruption.1, p.run given s.stored with
  | none, .ok effect => effect.changed
  | _, _ => 0

/-- How many rows a statement changes, if there is one that is there to change rows. -/
def countOf (s : Session τ) (running : Option (Prepared τ × List Stored)) : Option ℕ :=
  running.bind fun (p, given) => if p.changesRows then some (s.changedBy p given) else none

/-- How many rows the statement of an event changes, if it runs one that is there to change
rows. -/
def count? (e : Engine τ) (s : Session τ) (event : Event) : Option ℕ :=
  s.countOf (s.running? e event)

/-- How many rows were changed by each of the statements of a list of events that are there to
change rows, in order. -/
def counts (e : Engine τ) : List Event → Session τ → List ℕ
  | [], _ => []
  | event :: rest, s => (s.count? e event).toList ++ counts e rest (s.step e event).2

variable {e : Engine τ} {s s' : Session τ} {p : Prepared τ} {given : List Stored} {event : Event}
  {answer : Answer}

lemma ready?_eq_some {sql : String} {parameters : List Value}
    (h : s.ready? e sql parameters = some (p, given)) :
    e.prepare sql s.stored = .ok p ∧ given = parameters.map Stored.ofValue := by
  rw [ready?] at h
  split at h
  · cases h
  · rename_i hprepare
    split at h
    · cases h
      exact ⟨hprepare, rfl⟩
    · cases h

lemma running?_eq_some (h : s.running? e event = some (p, given)) :
    ∃ r, event.statement? = some r ∧ e.prepare r.sql s.stored = .ok p ∧
      given = r.parameters.map Stored.ofValue := by
  cases event with
  | direct fetch sql parameters =>
    rw [running?] at h
    split at h
    · cases h
    · exact ⟨_, rfl, ready?_eq_some h⟩
  | inside handle fetch sql parameters =>
    rw [running?] at h
    split at h
    · exact ⟨_, rfl, ready?_eq_some h⟩
    · cases h
  | batch sql =>
    rw [running?] at h
    split at h
    · cases h
    · split at h
      · cases h
      · rename_i hprepare
        cases h
        exact ⟨_, rfl, hprepare, rfl⟩
  | _ => cases h

/-! ## Commands leave the number -/

lemma interruption_same {f : Option Refusal} (h : s.interruption = (f, s')) :
    s'.stored = s.stored ∧ s'.changes = s.changes := by
  rw [interruption] at h
  split at h
  · cases h
    exact ⟨rfl, rfl⟩
  · cases h
    exact ⟨rfl, rfl⟩

lemma changes_beginCommand : s.beginCommand.2.changes = s.changes := by
  rw [beginCommand]
  split
  · rename_i hinterruption
    exact (interruption_same hinterruption).2
  · rename_i hinterruption
    split <;> exact (interruption_same hinterruption).2

lemma changes_commitCommand : s.commitCommand.2.changes = s.changes := by
  rw [commitCommand]
  split
  · rename_i hinterruption
    exact (interruption_same hinterruption).2
  · rename_i hinterruption
    split <;> exact (interruption_same hinterruption).2

lemma changes_rollbackCommand : s.rollbackCommand.2.changes = s.changes := by
  rw [rollbackCommand]
  split <;> rfl

lemma changes_giveUp (flags : Flags) : (s.giveUp flags).changes = s.changes := by
  rw [giveUp]
  split
  · rfl
  · exact changes_rollbackCommand

lemma changes_start : s.start.2.changes = s.changes := by
  have hsame := s.changes_beginCommand
  rw [start]
  split
  · rename_i hbegin
    rwa [hbegin] at hsame
  · rename_i hbegin
    rwa [hbegin] at hsame

lemma changes_commit : (s.commit .unfinished).2.changes = s.changes := by
  have hsame := s.changes_commitCommand
  rw [commit, Flags.unfinished, if_neg Bool.false_ne_true, if_neg Bool.false_ne_true]
  split
  · rename_i hcommit
    rw [hcommit] at hsame
    rw [changes_giveUp, hsame]
  · rename_i hcommit
    rw [hcommit] at hsame
    rw [changes_giveUp, hsame]

lemma changes_rollback : (s.rollback .unfinished).2.changes = s.changes := by
  have hsame := s.changes_rollbackCommand
  rw [rollback, Flags.unfinished, if_neg Bool.false_ne_true, if_neg Bool.false_ne_true]
  rcases hrollback : s.rollbackCommand with ⟨_ | _, s₁⟩
  · rw [hrollback] at hsame
    rwa [answerTo, changes_giveUp]
  · rw [hrollback] at hsame
    rwa [answerTo, changes_giveUp]

/-! ## Statements set it -/

/-- The number that is remembered after a statement is that of the statement, or the one from
before. -/
lemma remembered_eq {n : ℕ} (hchanges : s'.changes = s.changes)
    (hchanged : s.changedBy p given = n) :
    s'.remembered p n = (s.countOf (some (p, given))).getD s.changes := by
  rw [remembered, hchanges, ← hchanged]
  simp only [countOf, Option.bind_some]
  split <;> rfl

/-- What becomes of a prepared statement, which starts from a session after the interruption. -/
inductive Course (s : Session τ) (p : Prepared τ) (given : List Stored) (s' : Session τ) : Prop
  | interrupted (r : Refusal) (interruption : s.interruption = (some r, s'))
      (changed : s.changedBy p given = 0)
  | refused (r : Refusal) (interruption : s.interruption = (none, s'))
      (run : p.run given s.stored = .error r) (changed : s.changedBy p given = 0)
  | ran (effect : Effect τ) (interruption : s.interruption = (none, s'))
      (run : p.run given s.stored = .ok effect) (changed : s.changedBy p given = effect.changed)

lemma exists_course (s : Session τ) (p : Prepared τ) (given : List Stored) :
    ∃ s', s'.stored = s.stored ∧ s'.changes = s.changes ∧ Course s p given s' := by
  rcases hinterruption : s.interruption with ⟨_ | r, s'⟩
  · obtain ⟨hstored, hchanges⟩ := interruption_same hinterruption
    refine ⟨s', hstored, hchanges, ?_⟩
    rcases hrun : p.run given s.stored with r | effect
    · exact .refused r hinterruption hrun (by rw [changedBy, hinterruption, hrun])
    · exact .ran effect hinterruption hrun (by rw [changedBy, hinterruption, hrun])
  · obtain ⟨hstored, hchanges⟩ := interruption_same hinterruption
    exact ⟨s', hstored, hchanges,
      .interrupted r hinterruption (by rw [changedBy, hinterruption])⟩

/-- What an answer has to do with the statement that was run for it, if one was: the number of that
statement is remembered, and a result says it. -/
structure Counted (s : Session τ) (running : Option (Prepared τ × List Stored)) (answer : Answer)
    (s' : Session τ) : Prop where
  changes : s'.changes = (s.countOf running).getD s.changes
  result : ∀ result, answer.result? = some result → result.affected = s'.changes ∧
    ∃ p given effect, running = some (p, given) ∧ p.run given s.stored = .ok effect ∧
      s.changedBy p given = effect.changed ∧ s'.stored = effect.stored

lemma Counted.of_result?_eq_none {running : Option (Prepared τ × List Stored)}
    (hchanges : s'.changes = (s.countOf running).getD s.changes) (hanswer : answer.result? = none) :
    Counted s running answer s' := by
  refine ⟨hchanges, fun result hresult => ?_⟩
  rw [hanswer] at hresult
  cases hresult

/-- Where no statement is run the number stays. -/
lemma Counted.quiet (hchanges : s'.changes = s.changes) (hanswer : answer.result? = none) :
    Counted s none answer s' := .of_result?_eq_none hchanges hanswer

lemma counted_statement {fetch : Bool} {sql : String} {parameters : List Value}
    (h : answerOf (s.statement e fetch sql parameters) = (answer, s')) :
    Counted s (s.ready? e sql parameters) answer s' := by
  rw [statement] at h
  rcases hprepare : e.prepare sql s.stored with r | p
  · have hready : s.ready? e sql parameters = none := by simp only [ready?, hprepare]
    simp only [hprepare] at h
    cases h
    rw [hready]
    exact .quiet rfl rfl
  simp only [hprepare] at h
  by_cases hparameters : parameters.length = p.parameters
  · have hready : s.ready? e sql parameters = some (p, parameters.map Stored.ofValue) := by
      simp only [ready?, hprepare, if_pos hparameters]
    rw [if_neg (not_not.mpr hparameters)] at h
    rw [hready]
    obtain ⟨s₁, hstored, hchanges, hcourse⟩ := s.exists_course p (parameters.map Stored.ofValue)
    cases hcourse with
    | interrupted r hinterruption hchanged =>
      simp only [hinterruption] at h
      cases h
      exact .of_result?_eq_none (remembered_eq hchanges hchanged) rfl
    | refused r hinterruption hrun hchanged =>
      simp only [hinterruption, hstored, hrun] at h
      cases h
      exact .of_result?_eq_none (remembered_eq hchanges hchanged) rfl
    | ran effect hinterruption hrun hchanged =>
      simp only [hinterruption, hstored, hrun] at h
      cases h
      refine ⟨remembered_eq hchanges hchanged, ?_⟩
      rintro _ ⟨⟩
      exact ⟨rfl, _, _, effect, rfl, hrun, hchanged, rfl⟩
  · have hready : s.ready? e sql parameters = none := by
      simp only [ready?, hprepare, if_neg hparameters]
    rw [if_pos hparameters] at h
    cases h
    rw [hready]
    exact .quiet rfl rfl

lemma counted_batch {sql : String} (hopen : s.isClosed = false)
    (h : s.batch e sql = (answer, s')) : Counted s (s.running? e (.batch sql)) answer s' := by
  rw [running?, hopen, if_neg Bool.false_ne_true]
  rw [batch] at h
  rcases hprepare : e.prepare sql s.stored with r | p
  · simp only [hprepare] at h
    cases h
    exact .quiet rfl rfl
  simp only [hprepare] at h
  obtain ⟨s₁, hstored, hchanges, hcourse⟩ := s.exists_course p []
  cases hcourse with
  | interrupted r hinterruption hchanged =>
    simp only [hinterruption] at h
    cases h
    exact .of_result?_eq_none (remembered_eq hchanges hchanged) rfl
  | refused r hinterruption hrun hchanged =>
    simp only [hinterruption, hstored, hrun] at h
    cases h
    exact .of_result?_eq_none (remembered_eq hchanges hchanged) rfl
  | ran effect hinterruption hrun hchanged =>
    simp only [hinterruption, hstored, hrun] at h
    cases h
    exact .of_result?_eq_none (remembered_eq hchanges hchanged) rfl

lemma counted_start (h : s.start = (answer, s')) : Counted s none answer s' := by
  have hchanges : s'.changes = s.changes := by rw [← s.changes_start, h]
  refine .quiet hchanges ?_
  rw [start] at h
  split at h
  · cases h
    rfl
  · cases h
    rfl

lemma counted_commit {handle : ℕ} (h : (s.forget handle).commit .unfinished = (answer, s')) :
    Counted s none answer s' := by
  have hchanges : s'.changes = s.changes := by
    have hsame := (s.forget handle).changes_commit
    rwa [h] at hsame
  refine .quiet hchanges ?_
  rw [commit, Flags.unfinished, if_neg Bool.false_ne_true, if_neg Bool.false_ne_true] at h
  split at h
  · cases h
    rfl
  · cases h
    rfl

lemma counted_rollback {handle : ℕ} (h : (s.forget handle).rollback .unfinished = (answer, s')) :
    Counted s none answer s' := by
  have hchanges : s'.changes = s.changes := by
    have hsame := (s.forget handle).changes_rollback
    rwa [h] at hsame
  refine .quiet hchanges ?_
  rw [rollback, Flags.unfinished, if_neg Bool.false_ne_true, if_neg Bool.false_ne_true] at h
  rcases hrollback : (s.forget handle).rollbackCommand with ⟨_ | _, s₁⟩
  · rw [hrollback] at h
    cases h
    rfl
  · rw [hrollback] at h
    cases h
    rfl

/-- An answer takes its number from the statement of the event, whatever the event is. -/
lemma counted_step (h : s.step e event = (answer, s')) :
    Counted s (s.running? e event) answer s' := by
  cases event with
  | start =>
    rw [step, ifOpen] at h
    split at h
    · cases h
      exact .quiet rfl rfl
    · exact counted_start h
  | direct fetch sql parameters =>
    rw [step, ifOpen] at h
    rw [running?]
    split at h
    · rename_i hclosed
      cases h
      rw [if_pos hclosed]
      exact .quiet rfl rfl
    · rename_i hopen
      rw [if_neg hopen]
      exact counted_statement h
  | inside handle fetch sql parameters =>
    rw [step, through] at h
    rw [running?]
    split at h
    · rename_i halive
      rw [if_pos halive]
      exact counted_statement h
    · rename_i hgone
      cases h
      rw [if_neg hgone]
      exact .quiet rfl rfl
  | batch sql =>
    rw [step, ifOpen] at h
    split at h
    · rename_i hclosed
      cases h
      rw [running?, if_pos hclosed]
      exact .quiet rfl rfl
    · rename_i hopen
      exact counted_batch (Bool.eq_false_iff.mpr hopen) h
  | commit handle =>
    rw [step, through] at h
    split at h
    · exact counted_commit h
    · cases h
      exact .quiet rfl rfl
  | rollback handle =>
    rw [step, through] at h
    split at h
    · exact counted_rollback h
    · cases h
      exact .quiet rfl rfl
  | drop handle =>
    rw [step, through] at h
    split at h
    · cases h
      exact .quiet ((s.forget handle).changes_giveUp _) rfl
    · cases h
      exact .quiet rfl rfl
  | close =>
    cases h
    exact .quiet rfl rfl

/-- After a list of events the number is that of the latest of its statements that are there to
change rows. -/
lemma changes_run (events : List Event) (s : Session τ) :
    (s.run e events).2.changes = (counts e events s).getLast?.getD s.changes := by
  induction events generalizing s with
  | nil => rfl
  | cons event rest ih =>
    rcases hstep : s.step e event with ⟨answer, s₁⟩
    have hchanges : s₁.changes = (s.count? e event).getD s.changes := (counted_step hstep).changes
    have hrun : (s.run e (event :: rest)).2 = (s₁.run e rest).2 := by simp only [run, hstep]
    have hcounts : counts e (event :: rest) s = (s.count? e event).toList ++ counts e rest s₁ := by
      rw [counts, hstep]
    rw [hrun, ih, hcounts, hchanges, List.getLast?_append]
    rcases hlater : (counts e rest s₁).getLast? with _ | n
    · rcases s.count? e event with _ | n
      · rfl
      · rfl
    · rfl

end Session

namespace Items

/-- How many rows are in one of two tables only. -/
def differing (before after : Items) : ℕ :=
  (before.filter fun i => i ∉ after).length + (after.filter fun i => i ∉ before).length

variable {t t' : Items} {items : List Item} {item : Item}

lemma differing_self (t : Items) : differing t t = 0 := by simp [differing]

lemma perm_insert (item : Item) (t : Items) : (t.insert item).Perm (item :: t) := by
  induction t with
  | nil => exact .refl _
  | cons j rest ih =>
    rw [insert]
    split
    · exact .refl _
    · exact (ih.cons j).trans (.swap item j rest)

lemma put_spec {id name info : Stored} (h : t.put id name info = .ok (item, t')) :
    item ∉ t ∧ t'.Perm (item :: t) := by
  rw [put] at h
  obtain ⟨key, -, h⟩ := bind_eq_ok.mp h
  dsimp only at h
  split at h
  · cases h
  split at h
  · cases h
  rename_i hkey
  split at h
  · cases h
  cases h
  refine ⟨fun hmem => hkey ?_, perm_insert _ t⟩
  exact List.any_eq_true.mpr ⟨_, hmem, beq_self_eq_true key⟩

lemma putAll_spec {rows : List (Stored × Stored × Stored)} (h : t.putAll rows = .ok (items, t')) :
    (∀ item ∈ items, item ∉ t) ∧ t'.Perm (items ++ t) := by
  induction rows generalizing t items with
  | nil =>
    cases h
    exact ⟨fun _ h => absurd h List.not_mem_nil, .refl _⟩
  | cons row rest ih =>
    simp only [putAll, bind_eq_ok] at h
    obtain ⟨⟨item, t₁⟩, hput, ⟨items, t₂⟩, hrest, h⟩ := h
    cases h
    obtain ⟨hnew, hfirst⟩ := put_spec hput
    obtain ⟨hnews, hall⟩ := ih hrest
    refine ⟨fun i hi => ?_, ?_⟩
    · rcases List.mem_cons.mp hi with rfl | hi
      · exact hnew
      · exact fun hmem => hnews i hi (hfirst.mem_iff.mpr (List.mem_cons_of_mem _ hmem))
    · exact (hall.trans (hfirst.append_left items)).trans List.perm_middle

/-- Rows that are put in are the ones that differ. -/
lemma differing_putAll {rows : List (Stored × Stored × Stored)}
    (h : t.putAll rows = .ok (items, t')) : differing t t' = items.length := by
  obtain ⟨hnew, hperm⟩ := putAll_spec h
  have hgone : (t.filter fun i => i ∉ t') = [] := by
    simp only [List.filter_eq_nil_iff, decide_eq_true_eq, not_not]
    exact fun i hi => hperm.mem_iff.mpr (List.mem_append_right _ hi)
  have hcame : (t'.filter fun i => i ∉ t).Perm items := by
    refine (hperm.filter _).trans ?_
    rw [List.filter_append, List.filter_eq_self.mpr fun i hi => by simpa using hnew i hi,
      List.filter_eq_nil_iff.mpr fun i hi => by simpa using hi, List.append_nil]
  rw [differing, hgone, List.length_nil, Nat.zero_add, hcame.length_eq]

/-- Rows that are taken out are the ones that differ. -/
lemma differing_takeOut (t : Items) (bound : Stored) :
    differing t (t.takeOut bound).2 = (t.takeOut bound).1 := by
  rw [takeOut]
  rcases bound.lowerBound? with _ | n
  · exact differing_self t
  · have hgone : (t.filter fun i => i ∉ t.filter fun j => j.id.toInt < n) =
        t.filter fun i => !decide (i.id.toInt < n) :=
      List.filter_congr fun i hi => by
        by_cases hbelow : i.id.toInt < n
        · simp [hi, hbelow]
        · simp [hi, hbelow]
    have hcame : ((t.filter fun j => j.id.toInt < n).filter fun i => i ∉ t) = [] := by
      simp only [List.filter_eq_nil_iff, decide_eq_true_eq, not_not]
      exact fun i hi => List.mem_of_mem_filter hi
    have hparts := List.length_eq_length_filter_add (l := t) fun j => decide (j.id.toInt < n)
    simp only [differing]
    rw [hgone, hcame, List.length_nil]
    omega

end Items

namespace Catalog

variable {sql : String} {c : Catalog} {p : Prepared Catalog} {given : List Stored}
  {effect : Effect Catalog}

/-- What a statement can be once it is prepared. -/
inductive IsPrepared (c : Catalog) : Prepared Catalog → Prop
  | creating (missing : c = none) : IsPrepared c creating
  | inserting (rows : List (List Term)) (returning : Bool) : IsPrepared c (inserting rows returning)
  | deleting (bound : Term) : IsPrepared c (deleting bound)
  | reading (columns : List (String × String)) (parameters : ℕ)
      (rows : List Stored → Catalog → List (List Stored)) :
      IsPrepared c (reading columns parameters rows)

lemma isPrepared_of_prepare (h : engine.prepare sql c = .ok p) : IsPrepared c p := by
  simp only [engine, bind_eq_ok] at h
  obtain ⟨statement, -, h⟩ := h
  cases statement with
  | create table offset =>
    rw [prepareStatement] at h
    split at h
    · cases h
    · rename_i hmissing
      cases h
      exact .creating (by simpa using hmissing)
  | insert table columns rows returning =>
    simp only [prepareStatement, bind_eq_ok] at h
    obtain ⟨-, -, -, -, -, -, h⟩ := h
    cases h
    exact .inserting rows returning
  | delete table bound =>
    simp only [prepareStatement, bind_eq_ok] at h
    obtain ⟨-, -, -, -, h⟩ := h
    cases h
    exact .deleting bound
  | all table =>
    simp only [prepareStatement, bind_eq_ok] at h
    obtain ⟨-, -, h⟩ := h
    cases h
    exact .reading ..
  | count table name =>
    simp only [prepareStatement, bind_eq_ok] at h
    obtain ⟨-, -, h⟩ := h
    cases h
    exact .reading ..
  | list table columns rows =>
    rw [prepareStatement] at h
    split at h
    · cases h
    · obtain ⟨-, -, h⟩ := bind_eq_ok.mp h
      cases h
      exact .reading ..

/-- The number of changed rows of a statement is that of the rows that it puts in or takes out. -/
lemma changed_eq_differing (hprepare : engine.prepare sql c = .ok p)
    (hrun : p.run given c = .ok effect) :
    effect.changed = Items.differing (c.getD []) (effect.stored.getD []) := by
  cases isPrepared_of_prepare hprepare with
  | creating hmissing =>
    cases hrun
    rw [hmissing]
    exact (Items.differing_self []).symm
  | inserting rows returning =>
    simp only [inserting, bind_eq_ok] at hrun
    obtain ⟨⟨items, t⟩, hput, h⟩ := hrun
    cases h
    exact (Items.differing_putAll hput).symm
  | deleting bound =>
    cases hrun
    exact (Items.differing_takeOut ..).symm
  | reading columns parameters rows =>
    cases hrun
    exact (Items.differing_self _).symm

end Catalog

/-! ## Whose number an answer says -/

namespace Session

/-- In every session, whatever is interrupted and however a statement is run, the affected rows of a
result are the rows that the statement itself has changed if it is there to change rows.  If it
only reads it has changed none, and the affected rows of its result are those of the latest
statement before it that is there to change rows, if there is one.  So the affected rows are always
those of the statement itself except after a statement that only reads, when the latest of the
others has changed some.  On the table of items the rows that a statement has changed are the ones
that it has put in or taken out. -/
theorem affected_rows_iff (e : Engine τ) (initial : τ) (faults : List (Option Refusal))
    (events : List Event) :
    let opened : Session τ := { Session.opened initial with faults }
    let s := (opened.run e events).2
    let latest := (counts e events opened).getLast?.getD 0
    (∀ event result, (s.step e event).1 = .ran result →
      ∃ r p effect, event.statement? = some r ∧ e.prepare r.sql s.stored = .ok p ∧
        p.run (r.parameters.map Stored.ofValue) s.stored = .ok effect ∧
        (s.step e event).2.stored = effect.stored ∧
        (p.changesRows = true → result.affected = effect.changed) ∧
        (p.changesRows = false → effect.changed = 0 ∧ result.affected = latest) ∧
        (result.affected = effect.changed ↔ p.changesRows = true ∨ latest = 0)) ∧
    ∀ sql c p given effect, Catalog.engine.prepare sql c = .ok p → p.run given c = .ok effect →
      effect.changed = Items.differing (c.getD []) (effect.stored.getD []) := by
  intro opened s latest
  refine ⟨fun event result hran => ?_,
    fun sql c p given effect hprepare hrun => Catalog.changed_eq_differing hprepare hrun⟩
  have hlatest : s.changes = latest := changes_run events opened
  obtain ⟨hchanges, hresult⟩ := counted_step (Prod.ext hran rfl : s.step e event = (.ran result, _))
  obtain ⟨haffected, p, given, effect, hrunning, hrun, hchanged, hstored⟩ := hresult result rfl
  obtain ⟨r, hstatement, hprepare, rfl⟩ := running?_eq_some hrunning
  rw [hchanges, hrunning, ← remembered_eq rfl hchanged, remembered, hlatest] at haffected
  refine ⟨r, p, effect, hstatement, hprepare, hrun, hstored, ?_⟩
  rcases hkind : p.changesRows
  · have hnone : effect.changed = 0 := p.changed_eq_zero hkind _ _ _ hrun
    have hothers : result.affected = latest := by rw [haffected, hkind, if_neg Bool.false_ne_true]
    rw [hnone, hothers]
    exact ⟨by simp, fun _ => ⟨rfl, rfl⟩, by simp⟩
  · have hown : result.affected = effect.changed := by rw [haffected, hkind, if_pos rfl]
    exact ⟨fun _ => hown, by simp, fun _ => .inl rfl, fun _ => hown⟩

/-- Two rows are put in and one of them is taken out: the answer to the latter says one, and one
row is not there any more. -/
theorem affected_rows_iff_deletion :
    let s := ((Session.opened (some [])).run Catalog.engine
      [.direct false "INSERT INTO items VALUES (1, 'a', NULL), (2, 'b', NULL)" []]).2
    let deletion :=
      s.step Catalog.engine (.direct false "DELETE FROM items WHERE id >= ?1" [.int64 2])
    deletion.1 = .ran ⟨[], [], 1⟩ ∧
      (s.stored = some [⟨1, .text "a", .null⟩, ⟨2, .text "b", .null⟩] ∧
        deletion.2.stored = some [⟨1, .text "a", .null⟩]) ∧
      Items.differing (s.stored.getD []) (deletion.2.stored.getD []) = 1 := by
  intro s deletion
  have hran : deletion.1 = .ran ⟨[], [], 1⟩ := by
    simp only [deletion, s]
    cbv
  have hlatest : (counts Catalog.engine
      [.direct false "INSERT INTO items VALUES (1, 'a', NULL), (2, 'b', NULL)" []]
      (Session.opened (some []))).getLast?.getD 0 = 2 := by cbv
  obtain ⟨hanswers, hitems⟩ := affected_rows_iff Catalog.engine (some []) []
    [.direct false "INSERT INTO items VALUES (1, 'a', NULL), (2, 'b', NULL)" []]
  obtain ⟨r, p, effect, -, hprepare, hrun, hstored, hown, hothers, -⟩ := hanswers _ _ hran
  refine ⟨hran, ⟨?_, ?_⟩, ?_⟩
  · simp only [s]
    cbv
  · simp only [deletion, s]
    cbv
  · have hafter : deletion.2.stored = effect.stored := hstored
    have hdiffering : effect.changed =
        Items.differing (s.stored.getD []) (effect.stored.getD []) :=
      hitems _ _ _ _ _ hprepare hrun
    rw [hafter, ← hdiffering]
    rcases hkind : p.changesRows
    -- The number of the insertion is another one.
    · have htwo : 1 = 2 := (hothers hkind).2.trans hlatest
      cases htwo
    · exact (hown hkind).symm

/-- A row is put in and then the rows are only counted: the answer says that one row was affected,
whether the rows of the answer are wanted or not, and nothing has changed. -/
theorem affected_rows_of_reading :
    let s := ((Session.opened (some [])).run Catalog.engine
      [.direct false "INSERT INTO items VALUES (1, 'a', NULL)" []]).2
    let counted (fetch : Bool) :=
      s.step Catalog.engine (.direct fetch "SELECT count(*) AS n FROM items" [])
    let one : QueryResult := ⟨[⟨"n", "DYNAMIC", 0⟩], [⟨["n"], [.int64 1]⟩], 1⟩
    ((counted false).1 = .ran one ∧ (counted false).2.stored = s.stored) ∧
      (counted true).1 = .ran one ∧ (counted true).2.stored = s.stored :=
  ⟨⟨by cbv, by cbv⟩, by cbv, by cbv⟩

end Session

end BulkValues.Sqlite
