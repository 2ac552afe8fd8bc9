/-
# The two lookups of a row

Several columns of a row may have one name.  A lookup by name finds the value of the first of them,
the mapping of the row keeps that of the last, and neither finds a column without a value.  So the
two agree on a name that at most one of the columns with a value has, and they agree whatever the
values are exactly if no two of these columns have one name.
-/
import BulkValues.Proofs.Fields
import BulkValues.Row
import Mathlib.Data.List.Range

namespace BulkValues.Row

variable {columns : List String} {values : List Value} {name : String}

/-- The values of the columns of a name, in order. -/
def valuesNamed (r : Row) (name : String) : List Value :=
  ((r.columns.zip r.values).filter fun f => f.1 == name).map (·.2)

lemma valuesNamed_cons (c : String) (columns : List String) (v : Value) (values : List Value)
    (name : String) :
    valuesNamed ⟨c :: columns, v :: values⟩ name =
      if c = name then v :: valuesNamed ⟨columns, values⟩ name
      else valuesNamed ⟨columns, values⟩ name := by
  rw [valuesNamed, List.zip_cons_cons, List.filter_cons]
  by_cases h : c = name <;> simp [h, valuesNamed]

lemma length_valuesNamed (columns : List String) (values : List Value) (name : String) :
    (valuesNamed ⟨columns, values⟩ name).length = (columns.take values.length).count name := by
  induction columns generalizing values with
  | nil => simp [valuesNamed]
  | cons c columns ih =>
    cases values with
    | nil => rfl
    | cons v values =>
      rw [valuesNamed_cons, List.length_cons, List.take_succ_cons, List.count_cons, ← ih]
      by_cases h : c = name <;> simp [h]

lemma sublist_valuesNamed (columns : List String) (values : List Value) (name : String) :
    (valuesNamed ⟨columns, values⟩ name).Sublist values := by
  induction columns generalizing values with
  | nil => exact List.nil_sublist values
  | cons c columns ih =>
    cases values with
    | nil => exact List.Sublist.refl []
    | cons v values =>
      rw [valuesNamed_cons]
      split
      · exact (ih values).cons_cons v
      · exact (ih values).cons v

/-! ## The first and the last column of a name -/

/-- A lookup by name goes to the first column of the name that has a value. -/
lemma getByName?_eq_head? (columns : List String) (values : List Value) (name : String) :
    getByName? ⟨columns, values⟩ name = (valuesNamed ⟨columns, values⟩ name).head? := by
  induction columns generalizing values with
  | nil => rfl
  | cons c columns ih =>
    rw [getByName?, List.idxOf?_cons]
    cases values with
    -- Without a value here there is none further on.
    | nil => split <;> rfl
    | cons v values =>
      rw [valuesNamed_cons]
      by_cases h : c = name
      · simp [h]
      · rw [if_neg h, ← ih, getByName?]
        cases columns.idxOf? name <;> simp [h]

/-- The mapping has the value of the last column of a name that has one. -/
lemma lookup?_eq_getLast? (columns : List String) (values : List Value) (name : String) :
    lookup? ⟨columns, values⟩ name = (valuesNamed ⟨columns, values⟩ name).getLast? := by
  rw [lookup?, toMap, orderByArrival, find?_foldl_insertByArrival, List.find?_nil, Option.map_none,
    Option.or_none, valuesNamed, List.getLast?_map]

section Ends

variable {α : Type} {l : List α}

lemma head?_eq_getLast? (h : l.length ≤ 1) : l.head? = l.getLast? := by
  match l, h with
  | [], _ => rfl
  | [_], _ => rfl

/-- Different items cannot be both first and last. -/
lemma length_le_one_of_nodup (hnodup : l.Nodup) (h : l.head? = l.getLast?) : l.length ≤ 1 := by
  match l, hnodup, h with
  | [], _, _ => exact Nat.zero_le 1
  | [_], _, _ => exact Nat.le_refl 1
  | a :: b :: rest, hnodup, h =>
    have hlast : (b :: rest).getLast? = some a := by
      rw [List.head?_cons, List.getLast?_cons_cons] at h
      exact h.symm
    exact absurd (List.mem_of_getLast? hlast) (List.nodup_cons.mp hnodup).1

end Ends

/-- A lookup by name finds the value of the first column of the name that has a value, and the
mapping of the row that of the last.  They find the same for a name that at most one of the columns
with a value has; and these columns having different names is what it takes for the two lookups to
agree on every name, whatever the values are. -/
theorem lookups_agree_iff (columns : List String) :
    (∀ values name,
      let r : Row := ⟨columns, values⟩
      r.getByName? name = (r.valuesNamed name).head? ∧
      r.lookup? name = (r.valuesNamed name).getLast? ∧
      ((columns.take values.length).count name ≤ 1 → r.getByName? name = r.lookup? name)) ∧
    ∀ n, (∀ values : List Value, values.length = n →
        ∀ name, getByName? ⟨columns, values⟩ name = lookup? ⟨columns, values⟩ name) ↔
      (columns.take n).Nodup := by
  have hagree : ∀ values name, (columns.take values.length).count name ≤ 1 →
      getByName? ⟨columns, values⟩ name = lookup? ⟨columns, values⟩ name := by
    intro values name hcount
    rw [getByName?_eq_head?, lookup?_eq_getLast?]
    exact head?_eq_getLast? ((length_valuesNamed columns values name).trans_le hcount)
  refine ⟨fun values name => ⟨getByName?_eq_head? .., lookup?_eq_getLast? .., hagree values name⟩,
    fun n => ⟨fun h => List.nodup_iff_count_le_one.mpr fun name => ?_, ?_⟩⟩
  -- With different values, columns of one name are told apart by their values.
  · let values := (List.range n).map fun i => Value.array (List.replicate i .null)
    have hlength : values.length = n := by simp [values]
    have hinjective : Function.Injective fun i => Value.array (List.replicate i .null) := by
      intro i j hij
      simpa using congrArg List.length (Value.array.inj hij)
    have hnodup : (valuesNamed ⟨columns, values⟩ name).Nodup :=
      (sublist_valuesNamed columns values name).nodup (List.nodup_range.map hinjective)
    have hends := h values hlength name
    rw [getByName?_eq_head?, lookup?_eq_getLast?] at hends
    have hle := length_le_one_of_nodup hnodup hends
    rwa [length_valuesNamed, hlength] at hle
  · rintro hnodup values rfl name
    exact hagree values name (List.nodup_iff_count_le_one.mp hnodup name)

/-- Two columns of one name, as a join has them: the lookup finds the first value, the mapping
the second. -/
theorem lookups_differ_on_repeated_name :
    let r : Row := ⟨["id", "id"], [.int64 1, .int64 2]⟩
    r.getByName? "id" = some (.int64 1) ∧ r.lookup? "id" = some (.int64 2) ∧
      r.getByName? "id" ≠ r.lookup? "id" := by
  intro r
  have hfirst : r.getByName? "id" = some (.int64 1) := rfl
  have hlast : r.lookup? "id" = some (.int64 2) := rfl
  refine ⟨hfirst, hlast, ?_⟩
  rw [hfirst, hlast]
  simp

end BulkValues.Row
