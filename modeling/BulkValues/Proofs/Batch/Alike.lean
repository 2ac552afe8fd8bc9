/-
# Databases that answer alike

Two databases can be told apart by a batch only through what they answer.  If their states are
related, and every call gets the same answer from both and keeps the states related, then a batch
has the same result on both.  After a failure nothing is asked any more, so that the states may be
related less closely from there on.
-/
import BulkValues.Batch.Execute
import BulkValues.Proofs.Except
import Mathlib.Data.Nat.Notation

namespace BulkValues.Batch

variable {σ τ : Type}

/-- The same answer, and states that are related. -/
def Agree {α : Type} (R : σ → τ → Prop) (p : α × σ) (p' : α × τ) : Prop :=
  ∃ answer s s', p = (answer, s) ∧ p' = (answer, s') ∧ R s s'

/-- Two databases that answer alike as long as their states are related by `R`, and whose states
are related by `Q` after a failure. -/
structure Alike (db : Database σ) (db' : Database τ) (o : Options) (R Q : σ → τ → Prop) :
    Prop where
  literal : db'.literal = db.literal
  start : ∀ {s s'}, R s s' → Agree R (db.start s) (db'.start s')
  run : ∀ {s s'} (sql : String), R s s' → Agree R (db.run o.fetch sql s) (db'.run o.fetch sql s')
  commit : ∀ {s s'}, R s s' → Agree R (db.commit s) (db'.commit s')
  abort : ∀ {s s'} (failed : Option String), R s s' →
    Q (abort db o failed s) (Batch.abort db' o failed s')
  done : ∀ {s s'}, R s s' → Q s s'

namespace Alike

variable {db : Database σ} {db' : Database τ} {o : Options} {R Q : σ → τ → Prop} {s : σ} {s' : τ}

lemma runPage (h : Alike db db' o R Q) (sql : String) (hs : R s s') :
    Agree R (runPage db o sql s) (Batch.runPage db' o sql s') := by
  obtain ⟨answer, s₁, s₁', hrun, hrun', hrest⟩ := h.run sql hs
  simp only [Batch.runPage, hrun, hrun']
  exact ⟨_, s₁, s₁', rfl, rfl, hrest⟩

/-- The states are related by `R` until a page fails. -/
lemma runPages (h : Alike db db' o R Q) (site : Site) (t : Template) (size k : ℕ)
    (pages : List (List Record)) (hs : R s s') :
    ∃ answer s₁ s₁', Batch.runPages db o site t size k pages s = (answer, s₁) ∧
      Batch.runPages db' o site t size k pages s' = (answer, s₁') ∧
      Settles answer (R s₁ s₁') (Q s₁ s₁') := by
  induction pages generalizing k s s' with
  | nil => exact ⟨_, s, s', rfl, rfl, hs⟩
  | cons page rest ih =>
    simp only [Batch.runPages, h.literal]
    cases composePage site t db.literal (k * size) page with
    | error e => exact ⟨_, _, _, rfl, rfl, h.abort none hs⟩
    | ok sql =>
      obtain ⟨answer, s₁, s₁', hrun, hrun', hrest⟩ := h.runPage sql hs
      simp only [hrun, hrun']
      cases answer with
      -- A failure ends the run, so that the closer relation is not needed any more.
      | error e => exact ⟨_, _, _, rfl, rfl, h.abort (some sql) hrest⟩
      | ok returned =>
        obtain ⟨answer, s₂, s₂', hpages, hpages', hsettles⟩ := ih (k + 1) hrest
        simp only [hpages, hpages']
        refine ⟨_, s₂, s₂', rfl, rfl, ?_⟩
        cases answer with
        | error e => exact hsettles
        | ok fetched => exact hsettles

/-- A batch has the same result on both. -/
lemma execute (h : Alike db db' o R Q) (query template : String) (rows : List Record)
    (hs : R s s') : Agree Q (Batch.execute db o query template rows s)
      (Batch.execute db' o query template rows s') := by
  simp only [Batch.execute]
  rcases prepare o query template rows.length with e | ⟨t, site, size⟩
  · exact ⟨_, s, s', rfl, rfl, h.done hs⟩
  · simp only
    split
    · exact ⟨_, s, s', rfl, rfl, h.done hs⟩
    · simp only [runAll]
      obtain ⟨answer, s₁, s₁', hstart, hstart', hrest⟩ := h.start hs
      simp only [hstart, hstart']
      cases answer with
      | error e => exact ⟨_, s₁, s₁', rfl, rfl, h.done hrest⟩
      | ok _ =>
        obtain ⟨answer, s₂, s₂', hpages, hpages', hsettles⟩ :=
          h.runPages site t size 0 (pages size rows) hrest
        simp only [hpages, hpages']
        cases answer with
        | error e => exact ⟨_, s₂, s₂', rfl, rfl, hsettles⟩
        | ok fetched =>
          obtain ⟨answer, s₃, s₃', hcommit, hcommit', hrest⟩ := h.commit hsettles
          simp only [hcommit, hcommit']
          cases answer with
          | error e => exact ⟨_, s₃, s₃', rfl, rfl, h.done hrest⟩
          | ok _ => exact ⟨_, s₃, s₃', rfl, rfl, h.done hrest⟩

end Alike

end BulkValues.Batch
