/-
# All or nothing

A batch on a connection that is not inside a transaction leaves it outside of one.  If it
succeeds every row was put in, once and in order; if it fails the connection stores what it
stored before.

Statements that were accepted have put the rows of their pages in, inside the transaction of the
batch.  When all of them were accepted these are all rows, and otherwise the transaction is
undone.
-/
import BulkValues.Proofs.Batch.Paging
import BulkValues.Proofs.Sqlite.Transaction

namespace BulkValues.Sqlite

open BulkValues.Batch

variable {τ : Type} {e : Engine τ} {before : τ}

/-- The statements for some rows are insertions into a table: the statement of a page puts its
rows in one after the other, and all of them or none. A row cannot be put in where it violates
the constraints of the table. -/
structure Inserts (e : Engine τ) (site : Site) (t : Template) (insert : τ → Record → Option τ)
    (rows : List Record) : Prop where
  page : ∀ first page sql, page ≠ [] → page <:+: rows →
    composePage site t (Dialect.literal .sqlite) first page = .ok sql →
    ∀ stored, e.after sql stored = page.foldlM insert stored

namespace BatchRun

variable {keeps : Bool} {o : Options} {r r' : BatchRun τ}

/-! ## Pages -/

section Pages

variable {site : Site} {t : Template} {insert : τ → Record → Option τ} {rows : List Record}
  {size k : ℕ} {pages : List (List Record)} {runs : List (String × List Row)}

lemma slices_of_pages (hsize : 0 < size) (rows : List Record) :
    ∀ page ∈ Batch.pages size rows, page ≠ [] ∧ page <:+: rows := fun _ h =>
  ⟨ne_nil_of_mem_pages hsize h, infix_of_mem_pages hsize h⟩

/-- Statements that were accepted have put the rows of the first pages in. -/
lemma inside_of_accepted (hinserts : Inserts e site t insert rows)
    (hpages : ∀ page ∈ pages, page ≠ [] ∧ page <:+: rows)
    (haccepted : Accepted (database e keeps) o runs r r')
    (hbegins : composed runs <+:
      statementsFrom (Dialect.literal .sqlite) site t size k pages)
    (hinside : Inside before r) :
    Inside before r' ∧ (r.session.faults = [] → r'.session.faults = []) ∧
      ∃ front back, pages = front ++ back ∧
        front.flatten.foldlM insert r.session.stored = some r'.session.stored ∧
        statementsFrom (Dialect.literal .sqlite) site t size k pages =
          composed runs ++
            statementsFrom (Dialect.literal .sqlite) site t size (k + front.length) back := by
  induction haccepted generalizing k pages with
  | nil r => exact ⟨hinside, id, [], pages, rfl, rfl, rfl⟩
  | @cons sql returned runs r r₁ r₂ head tail ih =>
    cases pages with
    | nil => exact absurd (List.eq_nil_of_prefix_nil hbegins) (List.cons_ne_nil _ _)
    | cons page rest =>
      obtain ⟨hcompose, hrest⟩ := List.cons_prefix_cons.mp hbegins
      obtain ⟨hinside₁, hfaults₁, hafter⟩ := runPage_spec hinside head
      obtain ⟨hpage, hinfix⟩ := hpages page List.mem_cons_self
      rw [hinserts.page _ page sql hpage hinfix hcompose.symm] at hafter
      obtain ⟨hinside₂, hfaults₂, front, back, rfl, hfold, hstatements⟩ :=
        ih (fun page' h => hpages page' (List.mem_cons_of_mem _ h)) hrest hinside₁
      refine ⟨hinside₂, hfaults₂ ∘ hfaults₁, page :: front, back, rfl, ?_, ?_⟩
      · rw [List.flatten_cons, List.foldlM_append, hafter]
        exact hfold
      · rw [statementsFrom, hstatements, ← hcompose, List.length_cons, Nat.add_right_comm,
          Nat.add_assoc]
        rfl

/-- The tuples are all rendered when every statement could be composed. -/
lemma exists_renderPage_of_statements {runs : List (String × List Row)} (hsize : 0 < size)
    (h : statements (Dialect.literal .sqlite) site t size rows = composed runs) :
    ∃ tuples, renderPage t (Dialect.literal .sqlite) 0 rows = .ok tuples := by
  have hfailure := firstFailure_statements hsize (Dialect.literal .sqlite) site t rows
  have hcomposed : composed runs = (runs.map (·.1)).map .ok := by
    rw [List.map_map]
    rfl
  rw [h, hcomposed, firstFailure_map_ok] at hfailure
  cases hrender : renderPage t (Dialect.literal .sqlite) 0 rows with
  | error reason =>
    rw [hrender] at hfailure
    cases hfailure
  | ok tuples => exact ⟨tuples, rfl⟩

/-- When all pages were accepted all rows have been put in. -/
lemma inside_of_done (hsize : 0 < size) (hinserts : Inserts e site t insert rows)
    {fetched : List Row}
    (hpages : PagesCourse (database e keeps) o
      (statements (Dialect.literal .sqlite) site t size rows) r (.ok fetched, r'))
    (hinside : Inside before r) :
    Inside before r' ∧ (r.session.faults = [] → r'.session.faults = []) ∧
      rows.foldlM insert r.session.stored = some r'.session.stored ∧
      ∃ tuples, renderPage t (Dialect.literal .sqlite) 0 rows = .ok tuples := by
  cases hpages with
  | done accepted all =>
    obtain ⟨hinside', hfaults, front, back, hpages, hfold, hstatements⟩ :=
      inside_of_accepted hinserts (slices_of_pages hsize rows) accepted
        ⟨[], (List.append_nil _).trans all.symm⟩ hinside
    -- No page is left when all statements were accepted, and the pages are the rows.
    have hback : back = [] := by
      rw [← statements, all, List.self_eq_append_right, ← List.length_eq_zero_iff,
        length_statementsFrom, List.length_eq_zero_iff] at hstatements
      exact hstatements
    have hfront : front.flatten = rows := by
      rw [← flatten_pages hsize rows, hpages, hback, List.append_nil]
    rw [hfront] at hfold
    exact ⟨hinside', hfaults, hfold, exists_renderPage_of_statements hsize all⟩

/-- When the pages were not all accepted the batch is undone. Unless it was interrupted, a record
cannot be rendered or a row cannot be put in. -/
lemma outside_of_undone (hsize : 0 < size) (hinserts : Inserts e site t insert rows)
    {reason : Error}
    (hpages : PagesCourse (database e keeps) o
      (statements (Dialect.literal .sqlite) site t size rows) r (.error reason, r'))
    (hinside : Inside before r) :
    Outside before r' ∧ (r.session.faults = [] → ∀ tuples,
      renderPage t (Dialect.literal .sqlite) 0 rows = .ok tuples →
        rows.foldlM insert r.session.stored = none) := by
  cases hpages with
  | @uncomposed runs reason r₁ accepted next =>
    have hbegins := (List.prefix_append (composed runs) _).trans next
    obtain ⟨hinside₁, -⟩ :=
      inside_of_accepted hinserts (slices_of_pages hsize rows) accepted hbegins hinside
    refine ⟨outside_abort none hinside₁, fun _ tuples htuples => ?_⟩
    -- A page that cannot be composed has a record that cannot be rendered in any page.
    have hfailure := firstFailure_of_prefix next
    rw [firstFailure_statements hsize, htuples] at hfailure
    cases hfailure
  | @rejected runs sql reason r₁ r₂ accepted next rejection =>
    have hbegins := (List.prefix_append (composed runs) _).trans next
    obtain ⟨hinside₁, hfaults, front, back, hpages, hfold, hstatements⟩ :=
      inside_of_accepted hinserts (slices_of_pages hsize rows) accepted hbegins hinside
    obtain ⟨hinside₂, -, hafter⟩ := runPage_spec hinside₁ rejection
    refine ⟨outside_abort (some sql) hinside₂, fun hnone _ _ => ?_⟩
    -- The rows of the page cannot be put in, so that the fold over all rows breaks off there.
    rw [statements, hstatements, List.prefix_append_right_inj] at next
    cases back with
    | nil => exact absurd (List.eq_nil_of_prefix_nil next) (List.cons_ne_nil _ _)
    | cons page rest =>
      obtain ⟨hcompose, -⟩ := List.cons_prefix_cons.mp next
      obtain ⟨hpage, hinfix⟩ := slices_of_pages hsize rows page
        (hpages ▸ List.mem_append_right _ List.mem_cons_self)
      have hpage_none := hafter (hfaults hnone)
      rw [hinserts.page _ page sql hpage hinfix hcompose.symm] at hpage_none
      rw [← flatten_pages hsize rows, hpages, List.flatten_append, List.flatten_cons,
        List.foldlM_append, hfold]
      change (page ++ rest.flatten).foldlM insert r₁.session.stored = none
      rw [List.foldlM_append, hpage_none]
      rfl

end Pages

/-! ## The whole batch -/

/-- What a batch needs to succeed on a connection that is not interrupted, apart from a page
size. -/
def Feasible (query template : String) (rows : List Record) (insert : τ → Record → Option τ)
    (s : Session τ) : Prop :=
  ∃ t site, Template.parseValid template = .ok t ∧ Site.locate query = .ok site ∧
    (rows = [] ∨ s.isClosed = false ∧
      (∃ tuples, renderPage t (Dialect.literal .sqlite) 0 rows = .ok tuples) ∧
      ∃ stored, rows.foldlM insert s.stored = some stored)

section Whole

variable {query template : String} {insert : τ → Record → Option τ} {rows : List Record}
  {s : Session τ} {t : Template} {site : Site} {size : ℕ}

/-- The parts of a feasible batch are those that were prepared. -/
lemma Feasible.of_prepare
    (hprepare : prepare o query template rows.length = .ok (t, site, size)) (hgiven : rows ≠ [])
    (h : Feasible query template rows insert s) :
    s.isClosed = false ∧ (∃ tuples, renderPage t (Dialect.literal .sqlite) 0 rows = .ok tuples) ∧
      ∃ stored, rows.foldlM insert s.stored = some stored := by
  obtain ⟨t', site', ht', hsite', hrows | h⟩ := h
  · exact absurd hrows hgiven
  · obtain ⟨ht, hsite, -⟩ := prepare_eq_ok_iff.mp hprepare
    rw [ht] at ht'
    cases ht'
    exact h

/-- A batch ends outside of its transaction, with all rows put in or with none. Without an
interruption it only fails when no page size could make it succeed. -/
lemma execute_spec (hsaved : s.saved = none)
    (hinserts : ∀ t site, Template.parseValid template = .ok t → Site.locate query = .ok site →
      Inserts e site t insert rows)
    {answer : Except Error (Option (List Row))}
    (h : execute (database e keeps) o query template rows (.fresh s) = (answer, r)) :
    Settles answer
      (r.session.saved = none ∧ rows.foldlM insert s.stored = some r.session.stored ∧
        Feasible query template rows insert s)
      (Outside s.stored r ∧
        (s.faults = [] → o.pageSize ≠ some 0 → ¬ Feasible query template rows insert s)) := by
  have hcourse := course_execute (database e keeps) o query template rows (.fresh s)
  rw [h] at hcourse
  cases hcourse with
  | refused prepared =>
    refine ⟨⟨hsaved, rfl⟩, fun _ hzero hfeasible => ?_⟩
    obtain ⟨t, site, ht, hsite, -⟩ := hfeasible
    obtain ⟨size, hsize⟩ := exists_resolvePageSize hzero rows.length
    rw [prepare_eq_ok_iff.mpr ⟨ht, hsite, hsize⟩] at prepared
    cases prepared
  | @nothing t site size prepared none_given =>
    obtain ⟨ht, hsite, -⟩ := prepare_eq_ok_iff.mp prepared
    subst none_given
    exact ⟨hsaved, rfl, t, site, ht, hsite, .inl rfl⟩
  | unstarted prepared given start =>
    obtain ⟨houtside, hclosed⟩ := start_spec hsaved start
    refine ⟨houtside, fun hfaults _ hfeasible => ?_⟩
    obtain ⟨hopen, -⟩ := hfeasible.of_prepare prepared given
    rw [hclosed hfaults] at hopen
    cases hopen
  | undone prepared given start pages =>
    obtain ⟨ht, hsite, hsize⟩ := prepare_eq_ok_iff.mp prepared
    obtain ⟨hinside, hstored, -, hfaults₁⟩ := start_spec hsaved start
    obtain ⟨houtside, hnone⟩ :=
      outside_of_undone (resolvePageSize_pos hsize) (hinserts _ _ ht hsite) pages hinside
    refine ⟨houtside, fun hfaults _ hfeasible => ?_⟩
    obtain ⟨-, ⟨tuples, htuples⟩, stored, hall⟩ := hfeasible.of_prepare prepared given
    rw [← hstored, hnone (hfaults₁ hfaults) tuples htuples] at hall
    cases hall
  | @finished t site size fetched commitAnswer r₁ r₂ r₃ prepared given start pages commit =>
    obtain ⟨ht, hsite, hsize⟩ := prepare_eq_ok_iff.mp prepared
    obtain ⟨hinside, hstored, hopen, hfaults₁⟩ := start_spec hsaved start
    obtain ⟨hinside₂, hfaults₂, hfold, hrender⟩ :=
      inside_of_done (resolvePageSize_pos hsize) (hinserts t site ht hsite) pages hinside
    have hcommit := commit_spec hinside₂ commit
    cases commitAnswer with
    | error reason =>
      exact ⟨hcommit.1, fun hfaults => absurd (hfaults₂ (hfaults₁ hfaults)) hcommit.2⟩
    | ok u =>
      rw [hstored, ← hcommit.stored] at hfold
      exact ⟨hcommit.saved, hfold, t, site, ht, hsite, .inr ⟨hopen, hrender, _, hfold⟩⟩

end Whole

/-- A batch on a connection outside of a transaction puts all rows in, each once and in order, or
it fails and changes nothing; either way it leaves the connection outside of a transaction.
Without interruptions the page size does not matter. -/
theorem all_or_nothing {τ : Type} (e : Engine τ) (keeps : Bool) (query template : String)
    (rows : List Record) (insert : τ → Record → Option τ) (s : Session τ)
    (houtside : s.inTransaction = false)
    (hinserts : ∀ t site, Template.parseValid template = .ok t → Site.locate query = .ok site →
      Inserts e site t insert rows) :
    let run (o : Options) := execute (database e keeps) o query template rows (.fresh s)
    (∀ o, (run o).2.session.inTransaction = false ∧
      Settles (run o).1 (rows.foldlM insert s.stored = some (run o).2.session.stored)
        ((run o).2.session.stored = s.stored)) ∧
    (s.faults = [] → ∀ o₁ o₂, o₁.pageSize ≠ some 0 → o₂.pageSize ≠ some 0 →
      (run o₁).1.isOk = (run o₂).1.isOk ∧
        (run o₁).2.session.stored = (run o₂).2.session.stored) := by
  intro run
  have hsaved : s.saved = none := by simpa [Session.inTransaction] using houtside
  constructor
  · intro o
    rcases hrun : run o with ⟨reason | fetched, r⟩
    · obtain ⟨hend, -⟩ := execute_spec hsaved hinserts hrun
      exact ⟨by rw [Session.inTransaction, hend.saved]; rfl, hend.stored⟩
    · obtain ⟨hend, hfold, -⟩ := execute_spec hsaved hinserts hrun
      exact ⟨by rw [Session.inTransaction, hend]; rfl, hfold⟩
  · intro hfaults o₁ o₂ hzero₁ hzero₂
    rcases hrun₁ : run o₁ with ⟨reason₁ | fetched₁, r₁⟩
    · obtain ⟨hend₁, hfeasible₁⟩ := execute_spec hsaved hinserts hrun₁
      rcases hrun₂ : run o₂ with ⟨reason₂ | fetched₂, r₂⟩
      · obtain ⟨hend₂, -⟩ := execute_spec hsaved hinserts hrun₂
        exact ⟨rfl, hend₁.stored.trans hend₂.stored.symm⟩
      · obtain ⟨-, -, hfeasible₂⟩ := execute_spec hsaved hinserts hrun₂
        exact absurd hfeasible₂ (hfeasible₁ hfaults hzero₁)
    · obtain ⟨-, hfold₁, hfeasible₁⟩ := execute_spec hsaved hinserts hrun₁
      rcases hrun₂ : run o₂ with ⟨reason₂ | fetched₂, r₂⟩
      · obtain ⟨-, hfeasible₂⟩ := execute_spec hsaved hinserts hrun₂
        exact absurd hfeasible₁ (hfeasible₂ hfaults hzero₂)
      · obtain ⟨-, hfold₂, -⟩ := execute_spec hsaved hinserts hrun₂
        exact ⟨rfl, Option.some.inj (hfold₁.symm.trans hfold₂)⟩

end BatchRun

/-! ## The engine of one table -/

/-- The statement of a page that reads as an insertion of its records. -/
lemma Catalog.after_compose {site : Site} {t : Template} {first : ℕ} {page : List Record}
    {sql sql' table : String} {rows : List (Stored × Stored × Stored)}
    (hcompose : composePage site t (Dialect.literal .sqlite) first page = .ok sql)
    (hsql : composePage site t (Dialect.literal .sqlite) first page = .ok sql')
    (hread : Statement.read sql' = .ok (.insert table none (rows.map termsOf) false))
    (htable : isTable table = true) (hrows : rows ≠ [])
    (hpage : ∀ c, page.foldlM putRecord c = rows.foldlM putRow c) (c : Catalog) :
    engine.after sql c = page.foldlM putRecord c := by
  rw [hsql] at hcompose
  cases hcompose
  rw [after_insert hread htable hrows, hpage]

/-- Two records with one name, into an empty table in pages of one and of two records. -/
theorem BatchRun.all_or_nothing_same_name :
    let query := "INSERT INTO items VALUES (%s)"
    let rows : List Record :=
      [.positional [.int64 1, .string "a", .null], .positional [.int64 2, .string "a", .null]]
    let s : Session Catalog := .opened (some [])
    let run (size : ℕ) := execute (BatchRun.database Catalog.engine false)
      ⟨some size, false, false⟩ query "%s, %s, %s" rows (.fresh s)
    (s.inTransaction = false ∧
      ∀ t site, Template.parseValid "%s, %s, %s" = .ok t → Site.locate query = .ok site →
        Inserts Catalog.engine site t Catalog.putRecord rows) ∧
      (run 1).1.isOk = (run 2).1.isOk ∧
      (run 1).2.session.stored = (run 2).2.session.stored ∧
      (run 1).2.session.inTransaction = false := by
  intro query rows s run
  have hinserts : ∀ t site, Template.parseValid "%s, %s, %s" = .ok t →
      Site.locate query = .ok site → Inserts Catalog.engine site t Catalog.putRecord rows := by
    intro t site ht hsite
    have htemplate : Template.parseValid "%s, %s, %s" = .ok (.positional [none, none, none]) := by
      decide +kernel
    have hquery : Site.locate query = .ok ⟨"INSERT INTO items VALUES".toList, []⟩ := by
      decide +kernel
    rw [htemplate] at ht
    rw [hquery] at hsite
    cases ht
    cases hsite
    refine ⟨fun first page sql hpage hinfix hcompose c => ?_⟩
    have hread₁ : Statement.read "INSERT INTO items VALUES (1, 'a', NULL)" =
        .ok (.insert "items" none ([(.integer 1, .text "a", .null)].map Catalog.termsOf) false)
        := by decide +kernel
    have hread₂ : Statement.read "INSERT INTO items VALUES (2, 'a', NULL)" =
        .ok (.insert "items" none ([(.integer 2, .text "a", .null)].map Catalog.termsOf) false)
        := by decide +kernel
    have hread : Statement.read "INSERT INTO items VALUES (1, 'a', NULL),(2, 'a', NULL)" =
        .ok (.insert "items" none ([(.integer 1, .text "a", .null),
          (.integer 2, .text "a", .null)].map Catalog.termsOf) false) := by decide +kernel
    have htable : Catalog.isTable "items" = true := by decide +kernel
    simp only [rows, List.infix_cons_iff, List.prefix_cons_iff, List.prefix_nil, List.infix_nil,
      hpage, false_or, or_false] at hinfix
    rcases hinfix with ⟨rest, rfl, rfl | ⟨rest, rfl, rfl⟩⟩ | ⟨rest, rfl, rfl⟩
    · exact Catalog.after_compose hcompose (by cbv) hread₁ htable (List.cons_ne_nil _ _)
        (fun _ => rfl) c
    · exact Catalog.after_compose hcompose (by cbv) hread htable (List.cons_ne_nil _ _)
        (fun _ => rfl) c
    · exact Catalog.after_compose hcompose (by cbv) hread₂ htable (List.cons_ne_nil _ _)
        (fun _ => rfl) c
  obtain ⟨hrun, hpages⟩ :=
    BatchRun.all_or_nothing Catalog.engine false query "%s, %s, %s" rows Catalog.putRecord s rfl
      hinserts
  obtain ⟨hok, hstored⟩ := hpages rfl ⟨some 1, false, false⟩ ⟨some 2, false, false⟩
    (by decide) (by decide)
  exact ⟨⟨rfl, hinserts⟩, hok, hstored, (hrun ⟨some 1, false, false⟩).1⟩

end BulkValues.Sqlite
