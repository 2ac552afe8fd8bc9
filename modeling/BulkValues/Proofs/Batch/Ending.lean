/-
# How a batch ends

Every batch ends in one of four ways, and what was said to the database tells which.  Nothing
was said if the batch is unfit.  Only the start was said if it failed.  Otherwise the statements
of the pages follow in order, and then the transaction is ended once: by a rollback if a
statement was rejected or could not be composed, and by a commit if all of them were accepted.

The failure that is returned is that of the first step that failed.  Neither a rollback that
fails nor a statement that cannot be kept shows in the result.
-/
import BulkValues.Proofs.Batch.Checks
import BulkValues.Proofs.Batch.Recorded

namespace BulkValues.Batch

/-- The ways in which a batch ends. -/
inductive Ending where
  /-- Nothing was said to the database. -/
  | untouched
  /-- The transaction did not start. -/
  | unstarted
  /-- The transaction was rolled back. -/
  | undone
  /-- The transaction was committed, if the database agreed. -/
  | finished
deriving DecidableEq, Repr

/-- Statements that were accepted, as they were said to the database. -/
def exchanges (fetch : Bool) (runs : List (String × List Row)) : List Exchange :=
  runs.map fun run => ⟨statementCall fetch run.1, .ok run.2⟩

/-- What was said to the database and what is returned when a batch ends in a way. -/
def Ending.Holds (lit : Literals) (o : Options) (query template : String) (rows : List Record)
    (said : List Exchange) (result : Except Error (Option (List Row))) : Ending → Prop
  | .untouched => said = [] ∧ Unfit o query template rows result
  | .unstarted =>
    (∃ t site size, Ready o query template rows t site size) ∧
      ∃ e, said = [⟨.start, .error e⟩] ∧ result = .error e
  | .undone =>
    ∃ t site size, Ready o query template rows t site size ∧
      ∃ runs failed answer e,
        said = ⟨.start, .ok []⟩ ::
          (exchanges o.fetch runs ++ failed ++ [⟨.rollback, answer⟩]) ∧
        result = .error e ∧
        (failed = [] ∧ composed runs ++ [.error e] <+: statements lit site t size rows ∨
          ∃ sql, failed = [⟨statementCall o.fetch sql, .error e⟩] ∧
            composed runs ++ [.ok sql] <+: statements lit site t size rows)
  | .finished =>
    ∃ t site size, Ready o query template rows t site size ∧
      ∃ runs answer,
        said = ⟨.start, .ok []⟩ :: (exchanges o.fetch runs ++ [⟨.commit, answer⟩]) ∧
        statements lit site t size rows = composed runs ∧
        runs.length = rows.length ⌈/⌉ size ∧
        (o.fetch = false → returned runs = []) ∧
        result = answer.map fun _ =>
          if (returned runs).isEmpty then none else some (returned runs)

/-! ## The four ways -/

/-- The way in which a batch ended, by the last call that was made. -/
def endingOf (said : List Exchange) : Ending :=
  match said.getLast?.map Exchange.call with
  | none => .untouched
  | some .start => .unstarted
  | some .rollback => .undone
  | some _ => .finished

/-- The last call tells how a batch ended. -/
lemma endingOf_of_holds {lit : Literals} {o : Options} {query template : String}
    {rows : List Record} {said : List Exchange} {result : Except Error (Option (List Row))}
    {ending : Ending} (h : ending.Holds lit o query template rows said result) :
    endingOf said = ending := by
  cases ending with
  | untouched =>
    obtain ⟨rfl, -⟩ := h
    rfl
  | unstarted =>
    obtain ⟨-, e, rfl, -⟩ := h
    rfl
  | undone =>
    obtain ⟨t, site, size, -, runs, failed, answer, e, rfl, -⟩ := h
    simp [endingOf, List.getLast?_cons, List.getLast?_append]
  | finished =>
    obtain ⟨t, site, size, -, runs, answer, rfl, -⟩ := h
    simp [endingOf, List.getLast?_cons, List.getLast?_append]

/-- Every batch ends in exactly one of the four ways. -/
theorem existsUnique_ending {σ : Type} (db : Database σ) (o : Options)
    (query template : String) (rows : List Record) (s : σ)
    (hquery : Site.locate query ≠ .error .tornCharacter) :
    let run := execute db o query template rows s
    let record := (execute (recorded db) o query template rows (.fresh s)).2
    record.state = run.2 ∧
      ∃! ending : Ending,
        ending.Holds db.literal o query template rows record.said run.1 := by
  -- The run with a record tells what was said, and its result is that of the run without one.
  have hforget := forget_execute_recorded db o query template rows (.fresh s)
  have hcourse := course_execute (recorded db) o query template rows (.fresh s)
  generalize execute (recorded db) o query template rows (.fresh s) = p at hforget hcourse
  change Recorded.forget p = execute db o query template rows s at hforget
  rw [← hforget]
  refine ⟨rfl, existsUnique_of_exists_of_unique ?_ fun _ _ h h' =>
    (endingOf_of_holds h).symm.trans (endingOf_of_holds h')⟩
  cases hcourse with
  | refused prepared => exact ⟨.untouched, rfl, unfit_of_prepare hquery prepared⟩
  | nothing prepared none_given =>
    exact ⟨.untouched, rfl, unfit_of_no_rows prepared none_given⟩
  | @unstarted t site size e r₁ prepared given start =>
    exact ⟨.unstarted, ⟨t, site, size, ready_of_prepare prepared given⟩, e,
      said_of_start start, rfl⟩
  | @undone t site size e r₁ r₂ prepared given start pages =>
    refine ⟨.undone, t, site, size, ready_of_prepare prepared given, ?_⟩
    cases pages with
    | @uncomposed runs e r₃ accepted next =>
      obtain ⟨answer, hanswer⟩ := said_abort_recorded db o none r₃
      refine ⟨runs, [], answer, e, ?_, rfl, .inl ⟨rfl, next⟩⟩
      rw [hanswer, said_of_accepted accepted, said_of_start start]
      simp [exchanges, Recorded.fresh, Except.map]
    | @rejected runs sql e r₃ r₄ accepted next rejection =>
      obtain ⟨answer, hanswer⟩ := said_abort_recorded db o (some sql) r₄
      refine ⟨runs, [⟨statementCall o.fetch sql, .error e⟩], answer, e, ?_, rfl,
        .inr ⟨sql, rfl, next⟩⟩
      rw [hanswer, said_of_runPage rejection, said_of_accepted accepted, said_of_start start]
      simp [exchanges, Recorded.fresh, Except.map]
  | @finished t site size fetched commitAnswer r₁ r₂ r₃ prepared given start pages commit =>
    have hready := ready_of_prepare prepared given
    refine ⟨.finished, t, site, size, hready, ?_⟩
    cases pages with
    | @done runs r₂ accepted all =>
      refine ⟨runs, commitAnswer.map fun _ => [], ?_, all, ?_,
        fun hfetch => rows_of_accepted o hfetch accepted, ?_⟩
      · rw [said_of_commit commit, said_of_accepted accepted, said_of_start start]
        simp [exchanges, Recorded.fresh, Except.map]
      · rw [← length_statements hready.size_pos (recorded db).literal site t rows, all, composed,
          List.length_map]
      · cases commitAnswer with
        | error e => rfl
        | ok u => rfl

/-- Two pages of one row, the second of which is rejected by a database that cannot even roll
back. -/
theorem existsUnique_ending_rejected :
    let query := "INSERT INTO t VALUES (%s)"
    let o : Options := ⟨some 1, false, false⟩
    let rows : List Record := [.positional [.int64 1], .positional [.int64 2]]
    let script : Script := { dialect := .ansi, start := none, commit := none, replies := []
                             statement := some (1, .reported .query "refused")
                             rollback := some (.reported .query "lost"), sink := .none }
    Site.locate query ≠ .error .tornCharacter ∧
      ∃! ending : Ending, ending.Holds Dialect.ansi.literal o query "%s" rows
        (execute (recorded script.database) o query "%s" rows (.fresh .empty)).2.said
        (execute script.database o query "%s" rows .empty).1 := by
  intro query o rows script
  have hquery : Site.locate query ≠ .error .tornCharacter := by decide +kernel
  exact ⟨hquery, (existsUnique_ending script.database o query "%s" rows .empty hquery).2⟩

end BulkValues.Batch
