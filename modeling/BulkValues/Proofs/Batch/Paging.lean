/-
# Pages cannot be observed

The page size decides how many statements a batch sends and nothing else.  Rendering is one pass
over the rows, and cut into pages it is the same pass, because a page begins at the position at
which its first row stands in the whole input.  The tuples of all statements together are
therefore those of the whole input, and a record that cannot be rendered is reported alike
whatever page it falls into.
-/
import BulkValues.Proofs.Batch.Ending
import BulkValues.Proofs.Batch.Rendering

namespace BulkValues.Batch

/-- Rows are cut into pages of a size; numbers of positions have `bits` bits. -/
structure Paged (bits size : ℕ) (rows : List Record) : Prop where
  /-- The pages are the rows, in order and each once. -/
  complete : (pages size rows).flatten = rows
  /-- The last page may be short. -/
  count : (pages size rows).length = rows.length ⌈/⌉ size
  /-- A page is a slice of the rows. -/
  slice : ∀ k page, (pages size rows)[k]? = some page →
    page = rows.extract (k * size) (min ((k + 1) * size) rows.length)
  /-- The number of a page and the place of a row in it give the position of the row, and no
  number on the way is too large. -/
  position : ∀ k page, (pages size rows)[k]? = some page → ∀ i < page.length,
    k * size < 2 ^ bits ∧ k * size + i < 2 ^ bits ∧ rows[k * size + i]? = page[i]?

/-- The statement that a call sends. -/
def Call.statement? : Call → Option String
  | .execute sql => some sql
  | .query sql => some sql
  | .start => none
  | .commit => none
  | .rollback => none

/-- The statements that were sent, in order. -/
def sent (said : List Exchange) : List String :=
  said.filterMap fun exchange => exchange.call.statement?

/-- The database agreed to start the transaction and to every statement. -/
def Agreed (said : List Exchange) : Prop :=
  ∀ exchange ∈ said, exchange.call ≠ .commit → exchange.call ≠ .rollback →
    exchange.answer.isOk

/-- The statement of every page of tuples. -/
def spliced (site : Site) (size : ℕ) (tuples : List String) : List String :=
  (pages size tuples).map fun page => site.splice (",".intercalate page)

/-- The failure of a step that failed. -/
def failure {α : Type} : Except Error α → Option Error
  | .error e => some e
  | .ok _ => none

/-- The failure of the first statement that cannot be composed. -/
def firstFailure (sts : List (Except Error String)) : Option Error := sts.findSome? failure

/-! ## Rendering page by page -/

section Rendering

variable {lit : Literals} {site : Site} {t : Template} {size k : ℕ} {rows : List Record}
  {tuples : List String}

/-- The first page of some rows is rendered before the rest, which begins at the position of the
next page. -/
lemma renderPage_take_drop (t : Template) (lit : Literals) (size k : ℕ) (rows : List Record) :
    renderPage t lit (k * size) rows = (do
      let before ← renderPage t lit (k * size) (rows.take size)
      let after ← renderPage t lit ((k + 1) * size) (rows.drop size)
      pure (before ++ after)) := by
  conv_lhs => rw [← List.take_append_drop size rows, renderPage_append]
  by_cases hrest : rows.drop size = []
  -- Nothing is left behind a short page, so that it does not matter where it ends.
  · rw [hrest]
    rfl
  · have hlt : size < rows.length := by
      have hpos := List.length_pos_iff.mpr hrest
      rw [List.length_drop] at hpos
      omega
    rw [List.length_take, min_eq_left hlt.le, Nat.succ_mul]

/-- Pages and what is in front of them. -/
lemma pages_append {α : Type} {before after : List α} (hpos : before ≠ [])
    (hle : before.length ≤ size) (hfull : before.length = size ∨ after = []) :
    pages size (before ++ after) = before :: pages size after := by
  have hsize : 0 < size := (List.length_pos_iff.mpr hpos).trans_le hle
  rw [pages_of_ne_nil hsize (by simp [hpos])]
  rcases hfull with rfl | rfl
  · rw [List.take_left, List.drop_left]
  · rw [List.append_nil, List.take_of_length_le hle, List.drop_eq_nil_of_le hle]

/-- When all rows can be rendered, so can every page, and the statements hold the same tuples. -/
lemma statementsFrom_of_renderPage (hsize : 0 < size)
    (h : renderPage t lit (k * size) rows = .ok tuples) :
    statementsFrom lit site t size k (pages size rows) =
      (spliced site size tuples).map .ok := by
  induction rows using pages_induction hsize generalizing k tuples with
  | nil =>
    cases h
    simp [statementsFrom, spliced]
  | cons rows hrows ih =>
    rw [renderPage_take_drop] at h
    simp only [bind_eq_ok] at h
    obtain ⟨before, hbefore, after, hafter, h⟩ := h
    cases h
    have hlength := length_renderPage hbefore
    have hlength' := length_renderPage hafter
    have hpos := List.length_pos_iff.mpr hrows
    rw [List.length_take] at hlength
    rw [List.length_drop] at hlength'
    have hbefore_ne : before ≠ [] := by
      rw [← List.length_pos_iff]
      omega
    -- Only the last page can be short, and no tuples follow it.
    have hfull : before.length = size ∨ after = [] := by
      rw [← List.length_eq_zero_iff]
      omega
    rw [pages_of_ne_nil hsize hrows, statementsFrom, ih hafter, spliced, spliced,
      pages_append hbefore_ne (by omega) hfull, composePage, hbefore]
    rfl

/-- The first page that cannot be composed fails as the first row that cannot be rendered. -/
lemma firstFailure_statementsFrom (hsize : 0 < size) (lit : Literals) (site : Site)
    (t : Template) (k : ℕ) (rows : List Record) :
    firstFailure (statementsFrom lit site t size k (pages size rows)) =
      failure (renderPage t lit (k * size) rows) := by
  induction rows using pages_induction hsize generalizing k with
  | nil => simp [firstFailure, statementsFrom, renderPage, failure]
  | cons rows hrows ih =>
    rw [pages_of_ne_nil hsize hrows, statementsFrom, firstFailure, List.findSome?_cons,
      renderPage_take_drop, composePage]
    cases renderPage t lit (k * size) (rows.take size) with
    | error e => rfl
    | ok before =>
      have hrest := ih (k + 1)
      rw [firstFailure] at hrest
      simp only [bind, Except.bind, failure, pure, Except.pure, hrest]
      cases renderPage t lit ((k + 1) * size) (rows.drop size) with
      | error e => rfl
      | ok after => rfl

lemma statements_of_renderPage (hsize : 0 < size) (h : renderPage t lit 0 rows = .ok tuples) :
    statements lit site t size rows = (spliced site size tuples).map .ok :=
  statementsFrom_of_renderPage hsize (by rwa [Nat.zero_mul])

lemma firstFailure_statements (hsize : 0 < size) (lit : Literals) (site : Site) (t : Template)
    (rows : List Record) :
    firstFailure (statements lit site t size rows) = failure (renderPage t lit 0 rows) := by
  rw [statements, firstFailure_statementsFrom hsize, Nat.zero_mul]

lemma firstFailure_map_ok (sqls : List String) : firstFailure (sqls.map .ok) = none := by
  induction sqls with
  | nil => rfl
  | cons sql sqls ih => exact ih

/-- What comes before a statement that cannot be composed was composed. -/
lemma firstFailure_of_prefix {runs : List (String × List Row)} {e : Error}
    {sts : List (Except Error String)} (h : composed runs ++ [.error e] <+: sts) :
    firstFailure sts = some e := by
  obtain ⟨rest, rfl⟩ := h
  induction runs with
  | nil => rfl
  | cons run runs ih => exact ih

end Rendering

/-! ## What is sent -/

section Sent

variable {σ : Type} {db : Database σ} {o : Options} {query template : String} {t : Template}
  {site : Site} {size : ℕ} {rows : List Record} {s : σ}

@[simp] lemma sent_append (said said' : List Exchange) :
    sent (said ++ said') = sent said ++ sent said' := by
  rw [sent, List.filterMap_append, ← sent, ← sent]

lemma sent_exchanges (fetch : Bool) (runs : List (String × List Row)) :
    sent (exchanges fetch runs) = runs.map (·.1) := by
  induction runs with
  | nil => rfl
  | cons run runs ih =>
    rw [exchanges, List.map_cons, sent, List.filterMap_cons, ← sent, ← exchanges, ih]
    cases fetch with
    | false => rfl
    | true => rfl

/-- When the database agrees to everything, either all statements are sent, or the batch fails
at the first one that cannot be composed. -/
lemma sent_of_agreed (hprepare : prepare o query template rows.length = .ok (t, site, size))
    (hgiven : rows ≠ [])
    (hagreed : Agreed (execute (recorded db) o query template rows (.fresh s)).2.said) :
    let run := execute (recorded db) o query template rows (.fresh s)
    (sent run.2.said).map .ok = statements db.literal site t size rows ∨
      ∃ e, firstFailure (statements db.literal site t size rows) = some e ∧
        run.1 = .error e := by
  intro run
  change Agreed run.2.said at hagreed
  have hcourse : Course (recorded db) o query template rows (.fresh s) run :=
    course_execute (recorded db) o query template rows (.fresh s)
  clear_value run
  cases hcourse with
  | refused prepared =>
    rw [hprepare] at prepared
    cases prepared
  | nothing prepared none_given => exact absurd none_given hgiven
  | unstarted prepared given start =>
    rw [said_of_start start] at hagreed
    have hok := hagreed _ (List.mem_append_right _ (List.mem_singleton.mpr rfl)) nofun nofun
    cases hok
  | undone prepared given start pages =>
    rw [hprepare] at prepared
    cases prepared
    cases pages with
    | uncomposed accepted next => exact .inr ⟨_, firstFailure_of_prefix next, rfl⟩
    | @rejected runs sql e r₁ r₂ accepted next answer =>
      -- A statement that was rejected is written down with its failure.
      obtain ⟨answer', hanswer'⟩ := said_abort_recorded db o (some sql) r₂
      rw [hanswer', said_of_runPage answer, List.append_assoc] at hagreed
      have hok := hagreed _
        (List.mem_append_right _ (List.mem_append_left _ (List.mem_singleton.mpr rfl)))
        (by cases o.fetch <;> nofun) (by cases o.fetch <;> nofun)
      cases hok
  | finished prepared given start pages commit =>
    rw [hprepare] at prepared
    cases prepared
    cases pages with
    | @done runs r₂ accepted all =>
      refine .inl ?_
      rw [said_of_commit commit, said_of_accepted accepted, said_of_start start, ← exchanges,
        sent_append, sent_append, sent_append, sent_exchanges]
      rw [literal_recorded] at all
      rw [all]
      simp [composed, sent, Recorded.fresh, Call.statement?]

end Sent

/-! ## Any two page sizes -/

lemma paged (bits : ℕ) {size : ℕ} (hsize : 0 < size) {rows : List Record}
    (hbits : rows.length < 2 ^ bits) : Paged bits size rows where
  complete := flatten_pages hsize rows
  count := length_pages hsize rows
  slice k page h := (eq_extract_of_getElem?_pages hsize h).2
  position k page h i hi := by
    obtain ⟨hlt, hrow⟩ := position_of_getElem?_pages hsize h hi
    exact ⟨by omega, by omega, hrow⟩

/-- The rows, the tuples that are sent and the failure that is reported are the same whatever
the page size is. -/
theorem paging_unobservable {σ : Type} (db : Database σ) (query template : String) {t : Template}
    {site : Site} {bits : ℕ} {rows : List Record}
    (htemplate : Template.parseValid template = .ok t) (hquery : Site.locate query = .ok site)
    (hbits : rows.length < 2 ^ bits) :
    (∀ o : Options, ∀ size, o.resolvePageSize rows.length = .ok size → Paged bits size rows) ∧
    (∀ tuples, renderPage t db.literal 0 rows = .ok tuples →
      ∀ (o : Options) (size : ℕ) (s : σ), o.resolvePageSize rows.length = .ok size →
        let run := execute (recorded db) o query template rows (.fresh s)
        Agreed run.2.said →
          sent run.2.said = spliced site size tuples ∧ (pages size tuples).flatten = tuples) ∧
    ((∃ i r e, rows[i]? = some r ∧ t.render db.literal i r.adapt = .error e) →
      ∃ i e, FirstFailing t db.literal 0 rows i e ∧
        ∀ (o : Options) (s : σ), o.pageSize ≠ some 0 →
          let run := execute (recorded db) o query template rows (.fresh s)
          Agreed run.2.said → run.1 = .error e) := by
  have hprepare : ∀ (o : Options) size, o.resolvePageSize rows.length = .ok size →
      prepare o query template rows.length = .ok (t, site, size) := fun o size hsize =>
    prepare_eq_ok_iff.mpr ⟨htemplate, hquery, hsize⟩
  refine ⟨fun o size hsize => paged bits (resolvePageSize_pos hsize) hbits, ?_, ?_⟩
  · intro tuples htuples o size s hsize run hagreed
    have hpos := resolvePageSize_pos hsize
    refine ⟨?_, flatten_pages hpos tuples⟩
    by_cases hgiven : rows = []
    · subst hgiven
      cases htuples
      have hrun : run = (.ok none, .fresh s) := by
        simp only [run, execute, hprepare o size hsize, List.isEmpty_nil, if_true]
      rw [hrun]
      simp [sent, spliced, Recorded.fresh]
    · rcases sent_of_agreed (hprepare o size hsize) hgiven hagreed with h | ⟨e, he, -⟩
      · rw [statements_of_renderPage hpos htuples] at h
        exact List.map_injective_iff.mpr (fun _ _ => Except.ok.inj) h
      · rw [firstFailure_statements hpos, htuples] at he
        cases he
  · rintro ⟨i, r, e, hr, he⟩
    obtain ⟨e', he'⟩ := exists_renderPage_eq_error hr (by rwa [Nat.zero_add])
    obtain ⟨i', hfirst⟩ := renderPage_eq_error he'
    refine ⟨i', e', hfirst, ?_⟩
    intro o s hzero run hagreed
    have hgiven : rows ≠ [] := List.ne_nil_of_mem (List.mem_of_getElem? hr)
    obtain ⟨size, hsize⟩ := exists_resolvePageSize hzero rows.length
    have hpos := resolvePageSize_pos hsize
    have hfailure := firstFailure_statements hpos db.literal site t rows
    rw [he', failure] at hfailure
    rcases sent_of_agreed (hprepare o size hsize) hgiven hagreed with h | ⟨e'', he'', hrun⟩
    · rw [← h, firstFailure_map_ok] at hfailure
      cases hfailure
    · rw [hfailure] at he''
      cases he''
      exact hrun

/-- Three rows, the last of which has a value too many, in pages of one and of two rows. -/
theorem paging_unobservable_too_long :
    let query := "INSERT INTO t VALUES (%s)"
    let rows : List Record :=
      [.positional [.int64 1], .positional [.int64 2], .positional [.int64 3, .int64 4]]
    let script : Script := { dialect := .sqlite, start := none, statement := none, commit := none
                             rollback := none, replies := [], sink := .none }
    let run (size : ℕ) := execute (recorded script.database) ⟨some size, false, false⟩ query "%s"
      rows (.fresh .empty)
    (Template.parseValid "%s" = .ok (.positional [none]) ∧
      Site.locate query = .ok ⟨"INSERT INTO t VALUES".toList, []⟩ ∧ rows.length < 2 ^ 64) ∧
      (Agreed (run 1).2.said ∧ Agreed (run 2).2.said) ∧
      ∃ e, (run 1).1 = .error e ∧ (run 2).1 = .error e := by
  intro query rows script run
  have htemplate : Template.parseValid "%s" = .ok (.positional [none]) := by decide +kernel
  have hquery : Site.locate query = .ok ⟨"INSERT INTO t VALUES".toList, []⟩ := by decide +kernel
  have hbits : rows.length < 2 ^ 64 := by decide
  have hagreed : Agreed (run 1).2.said ∧ Agreed (run 2).2.said := by
    unfold Agreed
    decide +kernel
  obtain ⟨-, -, hfailure⟩ :=
    paging_unobservable script.database query "%s" htemplate hquery hbits
  obtain ⟨i, e, -, hruns⟩ := hfailure ⟨2, _, _, rfl, rfl⟩
  exact ⟨⟨htemplate, hquery, hbits⟩, hagreed, e,
    hruns ⟨some 1, false, false⟩ .empty nofun hagreed.1,
    hruns ⟨some 2, false, false⟩ .empty nofun hagreed.2⟩

end BulkValues.Batch
