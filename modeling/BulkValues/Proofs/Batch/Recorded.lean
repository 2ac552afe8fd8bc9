/-
# Databases that keep a record

What a batch says to a database can be written down without changing anything: every call with
its answer, in order, and beside it the statements that were given to be kept.  A batch on the
recorded database has the result that it has on the database itself, and leaves it in the same
state.
-/
import BulkValues.Batch.Script
import BulkValues.Proofs.Batch.Alike
import BulkValues.Proofs.Batch.Course

namespace BulkValues.Batch

variable {σ α : Type}

/-- A call with its answer. Only a statement whose rows are wanted is answered with rows. -/
structure Exchange where
  /-- The call. -/
  call : Call
  /-- The failure of the call, or the rows that came back. -/
  answer : Except Error (List Row)

/-- The state of a database with a record. -/
structure Recorded (σ : Type) where
  /-- The state. -/
  state : σ
  /-- The calls so far with their answers. -/
  said : List Exchange
  /-- The statements that were given to be kept. -/
  kept : List String

namespace Recorded

/-- Nothing has been said. -/
def fresh (s : σ) : Recorded σ := ⟨s, [], []⟩

/-- Make a call and write it down with its answer. -/
def ask (call : Call) (act : σ → Except Error α × σ) (rows : α → List Row) (r : Recorded σ) :
    Except Error α × Recorded σ :=
  let (answer, s) := act r.state
  (answer, { r with state := s, said := r.said ++ [⟨call, answer.map rows⟩] })

/-- What is left when the record is thrown away. -/
def forget (p : α × Recorded σ) : α × σ := (p.1, p.2.state)

end Recorded

/-- The call that sends a statement. -/
def statementCall (fetch : Bool) (sql : String) : Call :=
  if fetch then .query sql else .execute sql

/-- The rows of a statement if they are wanted. -/
def wanted (fetch : Bool) (rows : List Row) : List Row := if fetch then rows else []

/-- The database with a record. -/
def recorded (db : Database σ) : Database (Recorded σ) where
  literal := db.literal
  start := Recorded.ask .start db.start fun _ => []
  run fetch sql := Recorded.ask (statementCall fetch sql) (db.run fetch sql) (wanted fetch)
  commit := Recorded.ask .commit db.commit fun _ => []
  rollback := Recorded.ask .rollback db.rollback fun _ => []
  keep sql r := { r with state := db.keep sql r.state, kept := r.kept ++ [sql] }

variable (db : Database σ) (o : Options)

@[simp] lemma literal_recorded : (recorded db).literal = db.literal := rfl

/-! ## What is written down -/

lemma start_recorded (r : Recorded σ) :
    (recorded db).start r = ((db.start r.state).1, { r with
      state := (db.start r.state).2
      said := r.said ++ [⟨.start, (db.start r.state).1.map fun _ => []⟩] }) := rfl

lemma commit_recorded (r : Recorded σ) :
    (recorded db).commit r = ((db.commit r.state).1, { r with
      state := (db.commit r.state).2
      said := r.said ++ [⟨.commit, (db.commit r.state).1.map fun _ => []⟩] }) := rfl

lemma runPage_recorded (sql : String) (r : Recorded σ) :
    runPage (recorded db) o sql r = ((runPage db o sql r.state).1, { r with
      state := (runPage db o sql r.state).2
      said := r.said ++ [⟨statementCall o.fetch sql, (runPage db o sql r.state).1⟩] }) := rfl

lemma said_of_start {db : Database σ} {r r' : Recorded σ} {answer : Except Error Unit}
    (h : (recorded db).start r = (answer, r')) :
    r'.said = r.said ++ [⟨.start, answer.map fun _ => []⟩] := by
  rw [start_recorded] at h
  obtain ⟨rfl, rfl⟩ := Prod.mk.inj h
  rfl

lemma said_of_commit {db : Database σ} {r r' : Recorded σ} {answer : Except Error Unit}
    (h : (recorded db).commit r = (answer, r')) :
    r'.said = r.said ++ [⟨.commit, answer.map fun _ => []⟩] := by
  rw [commit_recorded] at h
  obtain ⟨rfl, rfl⟩ := Prod.mk.inj h
  rfl

lemma said_of_runPage {db : Database σ} {o : Options} {sql : String} {r r' : Recorded σ}
    {answer : Except Error (List Row)} (h : runPage (recorded db) o sql r = (answer, r')) :
    r'.said = r.said ++ [⟨statementCall o.fetch sql, answer⟩] := by
  rw [runPage_recorded] at h
  obtain ⟨rfl, rfl⟩ := Prod.mk.inj h
  rfl

/-- A rollback is the only call after a failure. -/
lemma said_abort_recorded (failed : Option String) (r : Recorded σ) :
    ∃ answer, (abort (recorded db) o failed r).said = r.said ++ [⟨.rollback, answer⟩] := by
  refine ⟨(db.rollback r.state).1.map fun _ => [], ?_⟩
  cases failed with
  | none => rfl
  | some sql =>
    simp only [abort]
    split
    · rfl
    · rfl

/-- Statements that are accepted are written down with their rows. -/
lemma said_of_accepted {db : Database σ} {o : Options} {runs : List (String × List Row)}
    {r r' : Recorded σ} (h : Accepted (recorded db) o runs r r') :
    r'.said = r.said ++ runs.map fun run => ⟨statementCall o.fetch run.1, .ok run.2⟩ := by
  induction h with
  | nil => simp
  | cons head _ ih =>
    rw [ih, said_of_runPage head, List.map_cons, List.append_assoc, List.singleton_append]

/-- Rows that are not wanted do not come back. -/
lemma rows_of_accepted {db : Database σ} {runs : List (String × List Row)} {s s' : σ}
    (hfetch : o.fetch = false) (h : Accepted db o runs s s') : returned runs = [] := by
  induction h with
  | nil => rfl
  | @cons sql rows runs s s₁ s₂ head _ ih =>
    have hrows : rows = [] := by
      have hanswer := congrArg Prod.fst head
      simp only [runPage, hfetch] at hanswer
      rcases hrun : (db.run false sql s).1 with e | given
      · simp [hrun, Except.map] at hanswer
      · simpa [hrun, Except.map] using hanswer.symm
    rw [returned] at ih ⊢
    rw [List.map_cons, List.flatten_cons, ih, hrows, List.nil_append]

/-! ## Nothing changes -/

lemma state_abort_recorded (failed : Option String) (r : Recorded σ) :
    (abort (recorded db) o failed r).state = abort db o failed r.state := by
  cases failed with
  | none => rfl
  | some sql =>
    simp only [abort]
    split
    · rfl
    · rfl

lemma alike_recorded : Alike (recorded db) db o (fun r s => r.state = s) (fun r s => r.state = s)
    where
  literal := rfl
  start h := ⟨_, _, _, rfl, h ▸ rfl, rfl⟩
  run _ h := ⟨_, _, _, rfl, h ▸ rfl, rfl⟩
  commit h := ⟨_, _, _, rfl, h ▸ rfl, rfl⟩
  abort failed h := by rw [state_abort_recorded, h]
  done h := h

/-- The result of a batch and the state it leaves do not depend on the record. -/
lemma forget_execute_recorded (query template : String) (rows : List Record) (r : Recorded σ) :
    Recorded.forget (execute (recorded db) o query template rows r) =
      execute db o query template rows r.state := by
  obtain ⟨answer, r', s, hrecorded, hplain, rfl⟩ :=
    (alike_recorded db o).execute query template rows rfl
  rw [hrecorded, hplain]
  rfl

end BulkValues.Batch
