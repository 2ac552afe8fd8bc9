/-
# Insertions are atomic

What a statement without parameters makes of the stored data is a partial function.  On the
engine of one table an insertion is the fold of its rows: they are put in one after the other,
and where one of them cannot be put in nothing is.
-/
import BulkValues.Record.Basic
import BulkValues.Sqlite.Items
import Mathlib.Data.Nat.Notation

namespace BulkValues.Sqlite

/-- What is stored after a statement without parameters, unless it is refused. -/
def Engine.after {τ : Type} (e : Engine τ) (sql : String) (stored : τ) : Option τ :=
  match e.prepare sql stored with
  | .error _ => none
  | .ok p =>
    if p.parameters = 0 then (p.run [] stored).toOption.map Effect.stored else none

namespace Catalog

/-- Put a row into the table, if there is one. -/
def putRow (c : Catalog) (row : Stored × Stored × Stored) : Option Catalog :=
  c.bind fun t => (t.put row.1 row.2.1 row.2.2).toOption.map fun p => some p.2

/-- Put a record of three values into the table. -/
def putRecord (c : Catalog) : Record → Option Catalog
  | .positional [id, name, info] => c.putRow (.ofValue id, .ofValue name, .ofValue info)
  | _ => none

/-- A row as it stands in a statement. -/
def termsOf (row : Stored × Stored × Stored) : List Term :=
  [.constant row.1, .constant row.2.1, .constant row.2.2]

lemma putAll_eq_foldlM (t : Items) (rows : List (Stored × Stored × Stored)) :
    ((t.putAll rows).toOption.map fun p => some p.2) = rows.foldlM putRow (some t) := by
  induction rows generalizing t with
  | nil => rfl
  | cons row rest ih =>
    rw [List.foldlM_cons, Items.putAll, putRow, Option.bind_some]
    rcases t.put row.1 row.2.1 row.2.2 with r | ⟨item, t₁⟩
    · rfl
    · refine Eq.trans ?_ (ih t₁)
      simp only [bind, Except.bind]
      rcases t₁.putAll rest with r | ⟨items, t₂⟩
      · rfl
      · rfl

lemma parameterCount_constants (rows : List (Stored × Stored × Stored)) :
    parameterCount (rows.map termsOf).flatten = 0 := by
  rw [parameterCount]
  induction rows with
  | nil => rfl
  | cons row rest ih => exact ih

lemma checkTerms_constants (sql : String) (rows : List (Stored × Stored × Stored)) :
    checkTerms sql (rows.map termsOf).flatten = .ok () := by
  rw [checkTerms]
  induction rows with
  | nil => rfl
  | cons row rest ih => exact ih

/-- An insertion puts its rows in one after the other, and all of them or none. -/
lemma after_insert {sql table : String} {rows : List (Stored × Stored × Stored)}
    (hread : Statement.read sql = .ok (.insert table none (rows.map termsOf) false))
    (htable : isTable table = true) (hrows : rows ≠ []) (c : Catalog) :
    engine.after sql c = rows.foldlM putRow c := by
  obtain ⟨row, rest, rfl⟩ := List.exists_cons_of_ne_nil hrows
  cases c with
  | none => simp [Engine.after, engine, hread, bind, Except.bind, prepareStatement, find, putRow]
  | some t =>
    have hprepare : engine.prepare sql (some t) =
        .ok (inserting ((row :: rest).map termsOf) false) := by
      simp only [engine, hread, bind, Except.bind, prepareStatement, find, htable, if_true,
        checkTerms_constants]
      rfl
    have hparameters := parameterCount_constants (row :: rest)
    have hvalues : ((row :: rest).map termsOf).map (fun row =>
        let value (i : ℕ) := (row[i]?.map (valueOf [])).getD .null
        (value 0, value 1, value 2)) = row :: rest := by
      rw [List.map_map]
      exact List.map_id (row :: rest)
    rw [← putAll_eq_foldlM]
    simp only [Engine.after, hprepare, inserting, hparameters, if_true, hvalues]
    simp only [Option.getD_some, bind, Except.bind]
    rcases t.putAll (row :: rest) with r | ⟨items, t'⟩
    · rfl
    · rfl

end Catalog

end BulkValues.Sqlite
