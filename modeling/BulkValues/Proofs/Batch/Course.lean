/-
# The course of a batch

What a batch can do is said once, as a relation between its input, the database it begins with,
and its result with the database it leaves.  The pages only enter through their statements, a
list of texts and of failures to compose one.  A number of statements is accepted in order; then
either all of them were, or the next one could not be composed, or the database rejected it.

Everything that is proved of batches is proved of such a course.
-/
import BulkValues.Proofs.Batch.Pages

namespace BulkValues.Batch

variable {σ : Type}

/-- The statements of pages, the first of which has number `k`, with the failures of those that
cannot be composed. -/
def statementsFrom (lit : Literals) (site : Site) (t : Template) (size : ℕ) :
    ℕ → List (List Record) → List (Except Error String)
  | _, [] => []
  | k, page :: rest =>
    composePage site t lit (k * size) page :: statementsFrom lit site t size (k + 1) rest

/-- The statements of the rows of a batch, page by page. -/
def statements (lit : Literals) (site : Site) (t : Template) (size : ℕ) (rows : List Record) :
    List (Except Error String) :=
  statementsFrom lit site t size 0 (pages size rows)

lemma length_statementsFrom (lit : Literals) (site : Site) (t : Template) (size k : ℕ)
    (pages : List (List Record)) :
    (statementsFrom lit site t size k pages).length = pages.length := by
  induction pages generalizing k with
  | nil => rfl
  | cons page rest ih => rw [statementsFrom, List.length_cons, ih, List.length_cons]

/-- There is one statement for every page. -/
lemma length_statements {size : ℕ} (hsize : 0 < size) (lit : Literals) (site : Site)
    (t : Template) (rows : List Record) :
    (statements lit site t size rows).length = rows.length ⌈/⌉ size := by
  rw [statements, length_statementsFrom, length_pages hsize]

/-- Statements that were accepted, as a list of what could be composed. -/
def composed (runs : List (String × List Row)) : List (Except Error String) :=
  runs.map fun run => .ok run.1

/-- The rows that accepted statements returned, in order. -/
def returned (runs : List (String × List Row)) : List Row := (runs.map (·.2)).flatten

/-- Statements that a database accepts one after the other, each with the rows it returns. -/
inductive Accepted (db : Database σ) (o : Options) : List (String × List Row) → σ → σ → Prop
  | nil (s : σ) : Accepted db o [] s s
  | cons {sql : String} {rows : List Row} {runs : List (String × List Row)} {s s₁ s₂ : σ}
      (head : runPage db o sql s = (.ok rows, s₁)) (tail : Accepted db o runs s₁ s₂) :
      Accepted db o ((sql, rows) :: runs) s s₂

/-- What can become of a list of statements: all are accepted, or after some that are the next
one cannot be composed, or it is rejected. -/
inductive PagesCourse (db : Database σ) (o : Options) (sts : List (Except Error String))
    (s : σ) : Except Error (List Row) × σ → Prop
  | done {runs : List (String × List Row)} {s₁ : σ} (accepted : Accepted db o runs s s₁)
      (all : sts = composed runs) : PagesCourse db o sts s (.ok (returned runs), s₁)
  | uncomposed {runs : List (String × List Row)} {e : Error} {s₁ : σ}
      (accepted : Accepted db o runs s s₁) (next : composed runs ++ [.error e] <+: sts) :
      PagesCourse db o sts s (.error e, abort db o none s₁)
  | rejected {runs : List (String × List Row)} {sql : String} {e : Error} {s₁ s₂ : σ}
      (accepted : Accepted db o runs s s₁) (next : composed runs ++ [.ok sql] <+: sts)
      (answer : runPage db o sql s₁ = (.error e, s₂)) :
      PagesCourse db o sts s (.error e, abort db o (some sql) s₂)

/-- A statement that is accepted goes before the course of those after it. -/
lemma PagesCourse.cons {db : Database σ} {o : Options} {sts : List (Except Error String)}
    {sql : String} {rows : List Row} {s s₁ s₂ : σ} {result : Except Error (List Row)}
    (head : runPage db o sql s = (.ok rows, s₁)) (tail : PagesCourse db o sts s₁ (result, s₂)) :
    PagesCourse db o (.ok sql :: sts) s (result.map (rows ++ ·), s₂) := by
  cases tail with
  | done accepted all =>
    exact .done (.cons head accepted) (by rw [all]; rfl)
  | uncomposed accepted next =>
    exact .uncomposed (.cons head accepted) (List.cons_prefix_cons.mpr ⟨rfl, next⟩)
  | rejected accepted next answer =>
    exact .rejected (.cons head accepted) (List.cons_prefix_cons.mpr ⟨rfl, next⟩) answer

/-- Running pages takes such a course. -/
lemma pagesCourse_runPages (db : Database σ) (o : Options) (site : Site) (t : Template)
    (size k : ℕ) (pages : List (List Record)) (s : σ) :
    PagesCourse db o (statementsFrom db.literal site t size k pages) s
      (runPages db o site t size k pages s) := by
  induction pages generalizing k s with
  | nil => exact .done (.nil s) rfl
  | cons page rest ih =>
    rw [statementsFrom, runPages]
    cases hcompose : composePage site t db.literal (k * size) page with
    | error e => exact .uncomposed (.nil s) (by simp [composed])
    | ok sql =>
      simp only
      rcases hrun : runPage db o sql s with ⟨e | rows, s₁⟩
      · exact .rejected (.nil s) (by simp [composed]) hrun
      · exact .cons hrun (ih (k + 1) s₁)

/-- What can become of a batch. -/
inductive Course (db : Database σ) (o : Options) (query template : String)
    (rows : List Record) (s : σ) : Except Error (Option (List Row)) × σ → Prop
  | refused {e : Error} (prepared : prepare o query template rows.length = .error e) :
      Course db o query template rows s (.error e, s)
  | nothing {t : Template} {site : Site} {size : ℕ}
      (prepared : prepare o query template rows.length = .ok (t, site, size))
      (none_given : rows = []) : Course db o query template rows s (.ok none, s)
  | unstarted {t : Template} {site : Site} {size : ℕ} {e : Error} {s₁ : σ}
      (prepared : prepare o query template rows.length = .ok (t, site, size))
      (given : rows ≠ []) (start : db.start s = (.error e, s₁)) :
      Course db o query template rows s (.error e, s₁)
  | undone {t : Template} {site : Site} {size : ℕ} {e : Error} {s₁ s₂ : σ}
      (prepared : prepare o query template rows.length = .ok (t, site, size))
      (given : rows ≠ []) (start : db.start s = (.ok (), s₁))
      (pages : PagesCourse db o (statements db.literal site t size rows) s₁ (.error e, s₂)) :
      Course db o query template rows s (.error e, s₂)
  | finished {t : Template} {site : Site} {size : ℕ} {fetched : List Row}
      {answer : Except Error Unit} {s₁ s₂ s₃ : σ}
      (prepared : prepare o query template rows.length = .ok (t, site, size))
      (given : rows ≠ []) (start : db.start s = (.ok (), s₁))
      (pages : PagesCourse db o (statements db.literal site t size rows) s₁ (.ok fetched, s₂))
      (commit : db.commit s₂ = (answer, s₃)) :
      Course db o query template rows s
        (answer.map fun _ => if fetched.isEmpty then none else some fetched, s₃)

/-- A batch takes such a course. -/
lemma course_execute (db : Database σ) (o : Options) (query template : String)
    (rows : List Record) (s : σ) :
    Course db o query template rows s (execute db o query template rows s) := by
  rw [execute]
  rcases hprepare : prepare o query template rows.length with e | ⟨t, site, size⟩
  · exact .refused hprepare
  · by_cases hrows : rows = []
    · simp only [hrows, List.isEmpty_nil, if_true]
      exact .nothing (hrows ▸ hprepare) rfl
    · simp only [List.isEmpty_iff, hrows, if_false]
      rw [runAll]
      rcases hstart : db.start s with ⟨e | u, s₁⟩
      · exact .unstarted hprepare hrows hstart
      · have hpages := pagesCourse_runPages db o site t size 0 (pages size rows) s₁
        rcases hrun : runPages db o site t size 0 (pages size rows) s₁ with ⟨e | fetched, s₂⟩
        · simp only [hrun]
          exact .undone hprepare hrows hstart (hrun ▸ hpages)
        · simp only [hrun]
          rcases hcommit : db.commit s₂ with ⟨e | u, s₃⟩
          · exact .finished hprepare hrows hstart (hrun ▸ hpages) hcommit
          · exact .finished hprepare hrows hstart (hrun ▸ hpages) hcommit

end BulkValues.Batch
