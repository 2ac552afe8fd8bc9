/-
# Running a batch

A batch is run page by page inside one transaction.  Everything that can be checked before
the database is touched is checked first, in a fixed order: the template, the site, the page
size; without rows nothing happens at all.  The first page that cannot be composed or whose
statement fails ends the batch: the transaction is rolled back and the failure of that page is
returned, whatever becomes of the rollback.

A database is any state with four operations, each of which may fail as it likes, and a way to
keep the text of a failed statement, which has no answer.
-/
import BulkValues.Batch.Tuple
import BulkValues.Row

namespace BulkValues

/-- A database that a batch can be run on. -/
structure Database (σ : Type) where
  /-- How values are written as literals. -/
  literal : Literals
  /-- Start a transaction. -/
  start : σ → Except Error Unit × σ
  /-- Run a statement inside the transaction; with `true` for the rows it returns. -/
  run : Bool → String → σ → Except Error (List Row) × σ
  /-- Make the transaction permanent. -/
  commit : σ → Except Error Unit × σ
  /-- Undo the transaction. -/
  rollback : σ → Except Error Unit × σ
  /-- Keep the text of a statement that failed, if there is a place for it. -/
  keep : String → σ → σ

namespace Batch

/-- How a batch is run. -/
structure Options where
  /-- The number of rows in a statement; all rows if it is not given. -/
  pageSize : Option Nat
  /-- Collect the rows that the statements return. -/
  fetch : Bool
  /-- Keep the text of a statement that fails. -/
  debug : Bool

/-- The page size for a number of rows. -/
def Options.resolvePageSize (o : Options) (rows : Nat) : Except Error Nat :=
  match o.pageSize with
  | some 0 => .error .zeroPageSize
  | some n => .ok n
  | none => .ok (max rows 1)

/-- The rows in pages of `size`, the last of which may be shorter. -/
def pages {α : Type} (size : Nat) (rows : List α) : List (List α) :=
  if _h : rows = [] ∨ size = 0 then []
  else rows.take size :: pages size (rows.drop size)
termination_by rows.length
decreasing_by
  have := List.length_pos_iff.mpr (fun e => _h (Or.inl e))
  simp only [List.length_drop]
  omega

variable {σ : Type}

/-- Roll back after a failure; the statement that failed, if one was sent, is kept in debug
mode. -/
def abort (db : Database σ) (o : Options) (failed : Option String) (s : σ) : σ :=
  let s := (db.rollback s).2
  match failed with
  | some sql => if o.debug then db.keep sql s else s
  | none => s

/-- Run the statement of a page. Its rows are only taken if they are wanted. -/
def runPage (db : Database σ) (o : Options) (sql : String) (s : σ) :
    Except Error (List Row) × σ :=
  let (answer, s) := db.run o.fetch sql s
  (answer.map fun returned => if o.fetch then returned else [], s)

/-- Run pages from number `page` on and collect what they return. -/
def runPages (db : Database σ) (o : Options) (site : Site) (t : Template) (size : Nat) :
    Nat → List (List Record) → σ → Except Error (List Row) × σ
  | _, [], s => (.ok [], s)
  | page, rows :: rest, s =>
    match composePage site t db.literal (page * size) rows with
    | .error e => (.error e, abort db o none s)
    | .ok sql =>
      match runPage db o sql s with
      | (.error e, s) => (.error e, abort db o (some sql) s)
      | (.ok returned, s) =>
        let (result, s) := runPages db o site t size (page + 1) rest s
        (result.map (returned ++ ·), s)

/-- Run a batch whose parts have been checked. -/
def runAll (db : Database σ) (o : Options) (site : Site) (t : Template) (size : Nat)
    (rows : List Record) (s : σ) : Except Error (Option (List Row)) × σ :=
  match db.start s with
  | (.error e, s) => (.error e, s)
  | (.ok _, s) =>
    match runPages db o site t size 0 (pages size rows) s with
    | (.error e, s) => (.error e, s)
    | (.ok fetched, s) =>
      match db.commit s with
      | (.error e, s) => (.error e, s)
      | (.ok _, s) => (.ok (if fetched.isEmpty then none else some fetched), s)

/-- The template, the site and the page size of a batch, checked in this order. -/
def prepare (o : Options) (query template : String) (rows : Nat) :
    Except Error (Template × Site × Nat) := do
  let t ← Template.parseValid template
  let site ← Site.locate query
  let size ← o.resolvePageSize rows
  pure (t, site, size)

/-- Run a batch: the rows that came back, if any did, or the failure of the first step that
failed. -/
def execute (db : Database σ) (o : Options) (query template : String) (rows : List Record)
    (s : σ) : Except Error (Option (List Row)) × σ :=
  match prepare o query template rows.length with
  | .error e => (.error e, s)
  | .ok (t, site, size) =>
    if rows.isEmpty then (.ok none, s) else runAll db o site t size rows s

end Batch

end BulkValues
