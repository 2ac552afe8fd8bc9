/-
# Rendering a list of records

The tuples of a list of records are rendered in one pass, which ends at the first record that
cannot be rendered.  The pass can be interrupted: what is rendered behind a part of the records
begins at the position where that part ends.
-/
import BulkValues.Batch.Tuple
import BulkValues.Proofs.Except
import Mathlib.Data.List.Forall2

namespace BulkValues

/-- Record number `i` is the first that cannot be rendered. -/
structure FirstFailing (t : Template) (lit : Literals) (first : ℕ) (rows : List Record) (i : ℕ)
    (e : Error) : Prop where
  /-- Its failure, with its position. -/
  fails : ∃ r, rows[i]? = some r ∧ t.render lit (first + i) r.adapt = .error e
  /-- The records before it. -/
  before : ∀ j < i, ∀ r, rows[j]? = some r →
    ∃ tuple, t.render lit (first + j) r.adapt = .ok tuple

variable {t : Template} {lit : Literals} {first : ℕ} {rows : List Record} {tuples : List String}
  {e : Error}

lemma renderPage_cons (t : Template) (lit : Literals) (first : ℕ) (r : Record)
    (rest : List Record) :
    renderPage t lit first (r :: rest) = (do
      let tuple ← t.render lit first r.adapt
      let tuples ← renderPage t lit (first + 1) rest
      pure (tuple :: tuples)) := rfl

lemma renderPage_append (t : Template) (lit : Literals) (first : ℕ) (rows rest : List Record) :
    renderPage t lit first (rows ++ rest) = (do
      let before ← renderPage t lit first rows
      let after ← renderPage t lit (first + rows.length) rest
      pure (before ++ after)) := by
  induction rows generalizing first with
  | nil =>
    rw [List.nil_append, List.length_nil, Nat.add_zero]
    cases renderPage t lit first rest with
    | error e => rfl
    | ok after => rfl
  | cons r rows ih =>
    have hposition : first + 1 + rows.length = first + (rows.length + 1) := by omega
    rw [List.cons_append, renderPage_cons, renderPage_cons, ih, List.length_cons, hposition]
    simp only [bind_assoc, pure_bind, List.cons_append]

/-- Every record has its tuple. -/
lemma forall₂_renderPage (h : renderPage t lit first rows = .ok tuples) :
    List.Forall₂ (fun r tuple => ∃ i, t.render lit i r.adapt = .ok tuple) rows tuples := by
  induction rows generalizing first tuples with
  | nil =>
    cases h
    exact .nil
  | cons r rest ih =>
    simp only [renderPage_cons, bind_eq_ok] at h
    obtain ⟨tuple, htuple, tuples, htuples, h⟩ := h
    cases h
    exact .cons ⟨first, htuple⟩ (ih htuples)

lemma length_renderPage (h : renderPage t lit first rows = .ok tuples) :
    tuples.length = rows.length :=
  (forall₂_renderPage h).length_eq.symm

/-- The failure of a list of records is that of the first one that cannot be rendered. -/
lemma renderPage_eq_error (h : renderPage t lit first rows = .error e) :
    ∃ i, FirstFailing t lit first rows i e := by
  induction rows generalizing first with
  | nil => cases h
  | cons r rest ih =>
    simp only [renderPage_cons, bind_eq_error] at h
    rcases h with h | ⟨tuple, htuple, h⟩
    · exact ⟨0, ⟨r, rfl, h⟩, fun j hj => absurd hj (Nat.not_lt_zero j)⟩
    · rcases h with h | ⟨tuples, -, h⟩
      · obtain ⟨i, ⟨r', hr', hfails⟩, hbefore⟩ := ih h
        rw [Nat.add_right_comm] at hfails
        refine ⟨i + 1, ⟨r', hr', hfails⟩, fun j hj r'' hr'' => ?_⟩
        cases j with
        | zero =>
          cases hr''
          exact ⟨tuple, htuple⟩
        | succ j =>
          have hrendered := hbefore j (by omega) r'' hr''
          rwa [Nat.add_right_comm] at hrendered
      · cases h

/-- One record that cannot be rendered at its position makes the whole list fail. -/
lemma exists_renderPage_eq_error {i : ℕ} {r : Record} (hr : rows[i]? = some r)
    (h : t.render lit (first + i) r.adapt = .error e) :
    ∃ e', renderPage t lit first rows = .error e' := by
  induction rows generalizing first i with
  | nil => cases hr
  | cons r₀ rest ih =>
    rw [renderPage_cons]
    rcases hhead : t.render lit first r₀.adapt with e' | tuple
    · exact ⟨e', rfl⟩
    · cases i with
      | zero =>
        cases hr
        rw [Nat.add_zero, hhead] at h
        cases h
      | succ i =>
        rw [← Nat.add_assoc, Nat.add_right_comm] at h
        obtain ⟨e', he'⟩ := ih hr h
        exact ⟨e', by rw [he']; rfl⟩

end BulkValues
