/-
# The text of a failed statement

A statement that fails is dumped into a file: in debug mode, if there is a place for it that can be
written.  Everything else that can end a batch leaves the file alone.  The dump comes last and
nothing is asked of it, so that neither its failure nor that of the rollback before it can be seen
in the result or in the calls on the database.
-/
import BulkValues.Proofs.Batch.Paging

namespace BulkValues.Batch

variable {σ : Type}

/-! ## The file -/

/-- The file for the text of a failed statement, with everything that was written into it. -/
structure DumpFile where
  /-- What is in the file, if there is one. -/
  text : Option String
  /-- The texts that were written, each in place of what was there. -/
  writes : List String

/-- Write a text in place of what is in the file. -/
def DumpFile.write (f : DumpFile) (text : String) : DumpFile :=
  { text := some text, writes := f.writes ++ [text] }

/-- The state of a database, beside the file. -/
structure Dumping (σ : Type) where
  /-- The state. -/
  state : σ
  /-- The file. -/
  file : DumpFile

/-- Make a call that has nothing to do with the file. -/
def Dumping.call {α : Type} (act : σ → α × σ) (d : Dumping σ) : α × Dumping σ :=
  ((act d.state).1, { d with state := (act d.state).2 })

/-- The database with a place for the text of a failed statement. Nothing is written if the place is
no file, or one that cannot be written. -/
def dumping (db : Database σ) (sink : Sink) : Database (Dumping σ) where
  literal := db.literal
  start := Dumping.call db.start
  run fetch sql := Dumping.call (db.run fetch sql)
  commit := Dumping.call db.commit
  rollback := Dumping.call db.rollback
  keep sql d := if sink = .file then { d with file := d.file.write sql } else d

variable {db : Database σ} {sink : Sink} {o : Options}

/-! ## What is written -/

section Writing

variable {r r' : Recorded (Dumping σ)}

lemma file_of_start {answer : Except Error Unit}
    (h : (recorded (dumping db sink)).start r = (answer, r')) : r'.state.file = r.state.file := by
  obtain ⟨-, rfl⟩ := Prod.mk.inj h
  rfl

lemma file_of_commit {answer : Except Error Unit}
    (h : (recorded (dumping db sink)).commit r = (answer, r')) :
    r'.state.file = r.state.file := by
  obtain ⟨-, rfl⟩ := Prod.mk.inj h
  rfl

lemma file_of_runPage {sql : String} {answer : Except Error (List Row)}
    (h : runPage (recorded (dumping db sink)) o sql r = (answer, r')) :
    r'.state.file = r.state.file := by
  obtain ⟨-, rfl⟩ := Prod.mk.inj h
  rfl

lemma file_of_accepted {runs : List (String × List Row)}
    (h : Accepted (recorded (dumping db sink)) o runs r r') : r'.state.file = r.state.file := by
  induction h with
  | nil => rfl
  | cons head _ ih => rw [ih, file_of_runPage head]

/-- Without a statement there is nothing to write. -/
lemma file_abort_none :
    (abort (recorded (dumping db sink)) o none r).state.file = r.state.file := rfl

lemma file_abort_some (sql : String) :
    (abort (recorded (dumping db sink)) o (some sql) r).state.file =
      if o.debug = true ∧ sink = .file then r.state.file.write sql else r.state.file := by
  by_cases hdebug : o.debug = true
  · by_cases hsink : sink = .file
    · rw [if_pos ⟨hdebug, hsink⟩]
      simp only [abort, if_pos hdebug, recorded, dumping, if_pos hsink]
      rfl
    · rw [if_neg fun h => hsink h.2]
      simp only [abort, if_pos hdebug, recorded, dumping, if_neg hsink]
      rfl
  · rw [if_neg fun h => hdebug h.1]
    simp only [abort, if_neg hdebug]
    rfl

end Writing

/-! ## Rejected statements -/

/-- The statements that were sent and accepted, or sent and rejected, in order. -/
def answered (ok : Bool) (said : List Exchange) : List String :=
  said.filterMap fun exchange =>
    if exchange.answer.isOk = ok then exchange.call.statement? else none

section Answered

variable {ok fetch : Bool} {runs : List (String × List Row)} {said : List Exchange}

lemma start_ne_statementCall (fetch : Bool) (sql : String) :
    Call.start ≠ statementCall fetch sql := by
  cases fetch <;> nofun

lemma commit_ne_statementCall (fetch : Bool) (sql : String) :
    Call.commit ≠ statementCall fetch sql := by
  cases fetch <;> nofun

lemma answered_append (said said' : List Exchange) :
    answered ok (said ++ said') = answered ok said ++ answered ok said' :=
  List.filterMap_append ..

/-- Calls that send no statement do not count. -/
lemma answered_cons_of_none {call : Call} {answer : Except Error (List Row)}
    (h : call.statement? = none) : answered ok (⟨call, answer⟩ :: said) = answered ok said := by
  rw [answered, List.filterMap_cons_none (by simp [h])]
  rfl

lemma answered_singleton (sql : String) (answer : Except Error (List Row)) :
    answered ok [⟨statementCall fetch sql, answer⟩] = if answer.isOk = ok then [sql] else [] := by
  have hstatement : (statementCall fetch sql).statement? = some sql := by
    cases fetch <;> rfl
  by_cases hok : answer.isOk = ok
  · simp [answered, hok, hstatement]
  · simp [answered, hok]

lemma answered_true_exchanges : answered true (exchanges fetch runs) = runs.map (·.1) := by
  induction runs with
  | nil => rfl
  | cons run runs ih =>
    rw [exchanges, List.map_cons, ← List.singleton_append, answered_append, answered_singleton,
      ← exchanges, ih]
    rfl

lemma answered_false_exchanges : answered false (exchanges fetch runs) = [] := by
  induction runs with
  | nil => rfl
  | cons run runs ih =>
    rw [exchanges, List.map_cons, ← List.singleton_append, answered_append, answered_singleton,
      ← exchanges, ih]
    rfl

/-- What was said around the statements does not count. -/
lemma answered_transaction {call : Call} {answer answer' : Except Error (List Row)}
    (h : call.statement? = none) :
    answered ok (⟨.start, answer⟩ :: (said ++ [⟨call, answer'⟩])) = answered ok said := by
  rw [answered_cons_of_none rfl, answered_append, answered_cons_of_none h]
  exact List.append_nil _

lemma answered_rejected {sql : String} {e : Error} {answer answer' : Except Error (List Row)} :
    answered ok (⟨.start, answer⟩ :: (exchanges fetch runs ++
      [⟨statementCall fetch sql, .error e⟩, ⟨.rollback, answer'⟩])) =
      answered ok (exchanges fetch runs) ++ if ok = false then [sql] else [] := by
  rw [← List.singleton_append (l := [_]), ← List.append_assoc, answered_transaction rfl,
    answered_append, answered_singleton]
  simp [eq_comm, Except.isOk, Except.toBool]

end Answered

/-- What can become of the file. It stays as it is, and no statement was rejected; or a statement
was rejected behind some that were accepted, and was written if it had to be. -/
inductive FileCourse (lit : Literals) (sink : Sink) (o : Options) (query template : String)
    (rows : List Record) (f : DumpFile) :
    Except Error (Option (List Row)) × Recorded (Dumping σ) → Prop
  | kept {result : Except Error (Option (List Row))} {r : Recorded (Dumping σ)}
      (file : r.state.file = f) (rejected : answered false r.said = []) :
      FileCourse lit sink o query template rows f (result, r)
  | rejected {t : Template} {site : Site} {size : ℕ} {runs : List (String × List Row)}
      {sql : String} {e : Error} {answer : Except Error (List Row)} {r : Recorded (Dumping σ)}
      (prepared : prepare o query template rows.length = .ok (t, site, size))
      (next : composed runs ++ [.ok sql] <+: statements lit site t size rows)
      (said : r.said = ⟨.start, .ok []⟩ :: (exchanges o.fetch runs ++
        [⟨statementCall o.fetch sql, .error e⟩, ⟨.rollback, answer⟩]))
      (file : r.state.file = if o.debug = true ∧ sink = .file then f.write sql else f) :
      FileCourse lit sink o query template rows f (.error e, r)

/-- The file takes such a course. -/
lemma fileCourse_execute (db : Database σ) (sink : Sink) (o : Options) (query template : String)
    (rows : List Record) (d : Dumping σ) :
    FileCourse db.literal sink o query template rows d.file
      (execute (recorded (dumping db sink)) o query template rows (.fresh d)) := by
  have hcourse := course_execute (recorded (dumping db sink)) o query template rows (.fresh d)
  generalize execute (recorded (dumping db sink)) o query template rows (.fresh d) = p at hcourse ⊢
  cases hcourse with
  | refused prepared => exact .kept rfl rfl
  | nothing prepared none_given => exact .kept rfl rfl
  | unstarted prepared given start =>
    refine .kept (file_of_start start) ?_
    rw [said_of_start start]
    rfl
  | @undone t site size e r₁ r₂ prepared given start pages =>
    cases pages with
    | @uncomposed runs e r₃ accepted next =>
      obtain ⟨answer, hanswer⟩ := said_abort_recorded (dumping db sink) o none r₃
      refine .kept ?_ ?_
      · rw [file_abort_none, file_of_accepted accepted, file_of_start start]
        rfl
      · rw [hanswer, said_of_accepted accepted, said_of_start start]
        exact (answered_transaction rfl).trans answered_false_exchanges
    | @rejected runs sql e r₃ r₄ accepted next rejection =>
      obtain ⟨answer, hanswer⟩ := said_abort_recorded (dumping db sink) o (some sql) r₄
      have hsaid : (abort (recorded (dumping db sink)) o (some sql) r₄).said =
          ⟨.start, .ok []⟩ :: (exchanges o.fetch runs ++
            [⟨statementCall o.fetch sql, .error e⟩, ⟨.rollback, answer⟩]) := by
        rw [hanswer, said_of_runPage rejection, said_of_accepted accepted, said_of_start start]
        simp [exchanges, Recorded.fresh, Except.map]
      refine .rejected prepared next hsaid ?_
      · rw [file_abort_some, file_of_runPage rejection, file_of_accepted accepted,
          file_of_start start]
        rfl
  | @finished t site size fetched commitAnswer r₁ r₂ r₃ prepared given start pages commit =>
    cases pages with
    | @done runs r₂ accepted all =>
      refine .kept ?_ ?_
      · rw [file_of_commit commit, file_of_accepted accepted, file_of_start start]
        rfl
      · rw [said_of_commit commit, said_of_accepted accepted, said_of_start start]
        exact (answered_transaction rfl).trans answered_false_exchanges

section FileCourse

variable {lit : Literals} {query template : String} {rows : List Record} {f : DumpFile}
  {result : Except Error (Option (List Row))} {r : Recorded (Dumping σ)}

/-- At most one statement is rejected, and then the file is written if it has to be. -/
lemma FileCourse.file_eq (h : FileCourse lit sink o query template rows f (result, r)) :
    (answered false r.said = [] ∧ r.state.file = f) ∨
      ∃ sql, answered false r.said = [sql] ∧
        r.state.file = if o.debug = true ∧ sink = .file then f.write sql else f := by
  cases h with
  | kept file rejected => exact .inl ⟨rejected, file⟩
  | rejected prepared next said file =>
    refine .inr ⟨_, ?_, file⟩
    rw [said, answered_rejected, answered_false_exchanges]
    rfl

lemma FileCourse.written_iff {text : Option String} {sql : String}
    (h : FileCourse lit sink o query template rows ⟨text, []⟩ (result, r)) :
    r.state.file = ⟨some sql, [sql]⟩ ↔
      o.debug = true ∧ sink = .file ∧ sql ∈ answered false r.said := by
  rcases h.file_eq with ⟨hnone, hfile⟩ | ⟨sql', hsql, hfile⟩
  · rw [hnone, hfile]
    simp
  · rw [hsql, hfile, List.mem_singleton, ← and_assoc]
    split
    · rename_i hcond
      rw [and_iff_right hcond]
      constructor
      · intro hwrite
        cases hwrite
        rfl
      · rintro rfl
        rfl
    · rename_i hcond
      simp [hcond]

lemma FileCourse.untouched_iff {text : Option String}
    (h : FileCourse lit sink o query template rows ⟨text, []⟩ (result, r)) :
    r.state.file = ⟨text, []⟩ ↔
      ¬ (o.debug = true ∧ sink = .file ∧ ∃ sql, sql ∈ answered false r.said) := by
  rcases h.file_eq with ⟨hnone, hfile⟩ | ⟨sql', hsql, hfile⟩
  · rw [hnone, hfile]
    simp
  · rw [hsql, hfile, ← and_assoc]
    split
    · rename_i hcond
      simp [hcond, DumpFile.write]
    · rename_i hcond
      simp [hcond]

/-- A statement is rejected only in a batch that fails, after it was started and without a
commit, and it is the next one that could be composed. -/
lemma FileCourse.of_rejected {sql : String}
    (h : FileCourse lit sink o query template rows f (result, r))
    (hsql : sql ∈ answered false r.said) :
    (∃ e, result = .error e) ∧
      (∀ e, ⟨.start, .error e⟩ ∉ r.said ∧ ⟨.commit, .error e⟩ ∉ r.said) ∧
      ∃ t site size, prepare o query template rows.length = .ok (t, site, size) ∧
        (statements lit site t size rows)[(answered true r.said).length]? = some (.ok sql) := by
  cases h with
  | kept file rejected =>
    rw [rejected] at hsql
    cases hsql
  | @rejected t site size runs sql' e answer r prepared next said file =>
    rw [said, answered_rejected, answered_false_exchanges] at hsql
    obtain rfl : sql = sql' := List.mem_singleton.mp hsql
    refine ⟨⟨e, rfl⟩, fun e' => ⟨?_, ?_⟩, t, site, size, prepared, ?_⟩
    · rw [said]
      simp [exchanges, start_ne_statementCall]
    · rw [said]
      simp [exchanges, commit_ne_statementCall]
    · obtain ⟨rest, hrest⟩ := next
      rw [said, answered_rejected, answered_true_exchanges, ← hrest]
      simp [composed]

end FileCourse

/-! ## What cannot be seen -/

/-- The state of the database and the calls on it are the same so far. -/
def SameSoFar (r r' : Recorded (Dumping σ)) : Prop :=
  r.state.state = r'.state.state ∧ r.said.map Exchange.call = r'.said.map Exchange.call

lemma agree_ask {α : Type} (call : Call) (act : σ → Except Error α × σ) (rows : α → List Row)
    {r r' : Recorded (Dumping σ)} (h : SameSoFar r r') :
    Agree SameSoFar (Recorded.ask call (Dumping.call act) rows r)
      (Recorded.ask call (Dumping.call act) rows r') := by
  obtain ⟨⟨s, f⟩, said, kept⟩ := r
  obtain ⟨⟨s', f'⟩, said', kept'⟩ := r'
  obtain ⟨rfl, hcalls⟩ := h
  refine ⟨_, _, _, rfl, rfl, rfl, ?_⟩
  change said.map Exchange.call = said'.map Exchange.call at hcalls
  simp only [List.map_append, hcalls]

/-- After a failure a rollback is called, whatever comes of it and of the text of the statement. -/
lemma alike_dumping (db : Database σ) (rollback : σ → Except Error Unit × σ) (sink sink' : Sink)
    (o : Options) :
    Alike (recorded (dumping db sink))
      (recorded (dumping { db with rollback := rollback } sink')) o SameSoFar
      fun r r' => r.said.map Exchange.call = r'.said.map Exchange.call where
  literal := rfl
  start := agree_ask .start db.start fun _ => []
  run sql := agree_ask (statementCall o.fetch sql) (db.run o.fetch sql) (wanted o.fetch)
  commit := agree_ask .commit db.commit fun _ => []
  abort failed h := by
    obtain ⟨answer, hanswer⟩ := said_abort_recorded (dumping db sink) o failed _
    obtain ⟨answer', hanswer'⟩ :=
      said_abort_recorded (dumping { db with rollback := rollback } sink') o failed _
    rw [hanswer, hanswer', List.map_append, List.map_append, h.2]
    rfl
  done h := h.2

/-- A scripted database keeps the text of its file in its log. -/
def InLog (d : Dumping Log) (l : Log) : Prop := l = { d.state with kept := d.file.text }

lemma inLog_abort (script : Script) (o : Options) (failed : Option String) (d : Dumping Log) :
    InLog (abort (dumping script.database script.sink) o failed d)
      (abort script.database o failed { d.state with kept := d.file.text }) := by
  cases failed with
  | none => rfl
  | some sql =>
    by_cases hdebug : o.debug = true
    · by_cases hsink : script.sink = .file
      · simp only [abort, if_pos hdebug, dumping, Script.database, if_pos hsink]
        rfl
      · simp only [abort, if_pos hdebug, dumping, Script.database, if_neg hsink]
        rfl
    · simp only [abort, if_neg hdebug]
      rfl

lemma alike_script (script : Script) (o : Options) :
    Alike (dumping script.database script.sink) script.database o InLog InLog where
  literal := rfl
  start := by
    rintro d _ rfl
    exact ⟨_, _, _, rfl, rfl, rfl⟩
  run sql h := by
    cases h
    exact ⟨_, _, _, rfl, rfl, rfl⟩
  commit := by
    rintro d _ rfl
    exact ⟨_, _, _, rfl, rfl, rfl⟩
  abort failed h := by
    cases h
    exact inLog_abort script o failed _
  done := id

/-- A batch on a scripted database has the result that it has with a file beside the database, and
the log ends with the text of the file. -/
theorem execute_script (script : Script) (o : Options) (query template : String)
    (rows : List Record) (l : Log) :
    let run := execute (dumping script.database script.sink) o query template rows ⟨l, ⟨l.kept, []⟩⟩
    execute script.database o query template rows l =
      (run.1, { run.2.state with kept := run.2.file.text }) := by
  have hlog : InLog ⟨l, ⟨l.kept, []⟩⟩ l := rfl
  obtain ⟨answer, d, l', hrun, hrun', hlog⟩ :=
    (alike_script script o).execute query template rows hlog
  simp only [hrun, hrun']
  exact congrArg (Prod.mk answer) hlog

/-- The file is written if and only if it has to be and a statement was rejected, and then it holds
that statement. In all other batches it is left alone. Neither a file that cannot be written nor a
rollback that fails changes the result or the calls. -/
theorem dump_iff_rejected (db : Database σ) (sink : Sink) (o : Options) (query template : String)
    (rows : List Record) (s : σ) (text : Option String) :
    let run := execute (dumping db sink) o query template rows ⟨s, ⟨text, []⟩⟩
    let record :=
      (execute (recorded (dumping db sink)) o query template rows (.fresh ⟨s, ⟨text, []⟩⟩)).2
    let untouched : Prop := run.2.file = ⟨text, []⟩
    record.state = run.2 ∧
    (∀ sql, run.2.file = ⟨some sql, [sql]⟩ ↔
      o.debug = true ∧ sink = .file ∧ sql ∈ answered false record.said) ∧
    (untouched ↔ ¬ (o.debug = true ∧ sink = .file ∧ ∃ sql, sql ∈ answered false record.said)) ∧
    ((∃ returned, run.1 = .ok returned) → untouched) ∧
    ((∃ e, prepare o query template rows.length = .error e) → untouched) ∧
    ((∃ t site size e, prepare o query template rows.length = .ok (t, site, size) ∧
      (statements db.literal site t size rows)[(answered true record.said).length]? =
        some (.error e)) → untouched) ∧
    ((∃ e, ⟨.start, .error e⟩ ∈ record.said ∨ ⟨.commit, .error e⟩ ∈ record.said) → untouched) ∧
    (o.debug = false → untouched) ∧
    ∀ sink' rollback,
      let run' := execute (recorded (dumping { db with rollback := rollback } sink')) o query
        template rows (.fresh ⟨s, ⟨text, []⟩⟩)
      run'.1 = run.1 ∧ run'.2.said.map Exchange.call = record.said.map Exchange.call := by
  have hforget : Recorded.forget (execute (recorded (dumping db sink)) o query template rows
    (.fresh ⟨s, ⟨text, []⟩⟩)) = execute (dumping db sink) o query template rows ⟨s, ⟨text, []⟩⟩ :=
      forget_execute_recorded ..
  have hcourse := fileCourse_execute db sink o query template rows ⟨s, ⟨text, []⟩⟩
  have hsame : SameSoFar (.fresh ⟨s, ⟨text, []⟩⟩ : Recorded (Dumping σ))
    (.fresh ⟨s, ⟨text, []⟩⟩) := ⟨rfl, rfl⟩
  have halike (rollback : σ → Except Error Unit × σ) (sink' : Sink) :=
    (alike_dumping db rollback sink sink' o).execute query template rows hsame
  -- The record tells what was rejected, and its run is the run itself.
  simp only [← hforget]
  rcases hrecorded : execute (recorded (dumping db sink)) o query template rows
    (.fresh ⟨s, ⟨text, []⟩⟩) with ⟨result, r⟩
  rw [hrecorded] at hcourse
  simp only [Recorded.forget]
  have huntouched (h : ∀ sql, sql ∉ answered false r.said) : r.state.file = ⟨text, []⟩ :=
    hcourse.untouched_iff.mpr fun ⟨_, _, sql, hsql⟩ => h sql hsql
  refine ⟨trivial, fun sql => hcourse.written_iff, hcourse.untouched_iff, ?_, ?_, ?_, ?_, ?_, ?_⟩
  · rintro ⟨returned, hok⟩
    refine huntouched fun sql hsql => ?_
    obtain ⟨⟨e, he⟩, -⟩ := hcourse.of_rejected hsql
    cases hok.symm.trans he
  · rintro ⟨e, he⟩
    refine huntouched fun sql hsql => ?_
    obtain ⟨-, -, t, site, size, hprepared, -⟩ := hcourse.of_rejected hsql
    cases he.symm.trans hprepared
  · rintro ⟨t, site, size, e, hprepared, he⟩
    refine huntouched fun sql hsql => ?_
    obtain ⟨-, -, t', site', size', hprepared', hnext⟩ := hcourse.of_rejected hsql
    cases hprepared.symm.trans hprepared'
    cases he.symm.trans hnext
  · rintro ⟨e, he⟩
    refine huntouched fun sql hsql => ?_
    obtain ⟨-, hcalls, -⟩ := hcourse.of_rejected hsql
    exact he.elim (hcalls e).1 (hcalls e).2
  · intro hdebug
    refine hcourse.untouched_iff.mpr ?_
    simp [hdebug]
  · intro sink' rollback
    obtain ⟨answer, r₁, r₂, hrun, hrun', hcalls⟩ := halike rollback sink'
    cases hrecorded.symm.trans hrun
    rw [hrun']
    exact ⟨rfl, hcalls.symm⟩

/-- The second of two pages is rejected, and the rollback fails. The statement of that page takes
the place of an older text. A rollback that works and a file that cannot be written change nothing
else. -/
theorem dump_iff_rejected_second :
    let query := "INSERT INTO t VALUES (%s)"
    let sql := "INSERT INTO t VALUES (2)"
    let o : Options := ⟨some 1, false, true⟩
    let rows : List Record := [.positional [.int64 1], .positional [.int64 2]]
    let script : Script := { dialect := .ansi, start := none, commit := none, replies := []
                             statement := some (1, .reported .query "refused")
                             rollback := some (.reported .query "lost"), sink := .none }
    let d : Dumping Log := ⟨.empty, ⟨some "older", []⟩⟩
    let run := execute (dumping script.database .file) o query "%s" rows d
    let record := (execute (recorded (dumping script.database .file)) o query "%s" rows
      (.fresh d)).2
    let run' := execute (recorded (dumping { script.database with rollback := fun l => (.ok (), l) }
      .unwritable)) o query "%s" rows (.fresh d)
    (o.debug = true ∧ sql ∈ answered false record.said) ∧ run.2.file = ⟨some sql, [sql]⟩ ∧
      run'.1 = run.1 ∧ run'.2.said.map Exchange.call = record.said.map Exchange.call := by
  intro query sql o rows script d run record run'
  have hrejected : answered false record.said = [sql] := by
    decide +kernel
  have hsql : sql ∈ answered false record.said := hrejected ▸ List.mem_singleton_self sql
  obtain ⟨-, hwritten, -, -, -, -, -, -, halike⟩ :=
    dump_iff_rejected script.database .file o query "%s" rows .empty (some "older")
  exact ⟨⟨rfl, hsql⟩, (hwritten sql).mpr ⟨rfl, rfl, hsql⟩, halike .unwritable fun l => (.ok (), l)⟩

end BulkValues.Batch
