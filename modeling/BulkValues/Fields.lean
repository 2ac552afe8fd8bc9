/-
# Named fields

Fields are kept in the order in which their names first arrived, and no name occurs twice.
-/
import BulkValues.Value.Basic

namespace BulkValues

variable {α β : Type}

/-- The names of fields. -/
def fieldNames (fields : List (String × α)) : List String := fields.map (·.1)

theorem mem_fieldNames_insertByArrival {name n : String} {value : α}
    {fields : List (String × α)} :
    n ∈ fieldNames (insertByArrival name value fields) ↔
      n = name ∨ n ∈ fieldNames fields := by
  induction fields with
  | nil => simp [insertByArrival, fieldNames]
  | cons f rest ih =>
    unfold insertByArrival
    split
    · rename_i h
      constructor
      · intro hm
        exact Or.inr (by simpa [fieldNames, h] using hm)
      · rintro (hn | hm)
        · exact List.mem_cons.mpr (Or.inl (hn.trans h.symm))
        · simpa [fieldNames, h] using hm
    · simp only [fieldNames, List.map_cons, List.mem_cons] at ih ⊢
      rw [ih]
      constructor
      · rintro (h | h | h)
        · exact Or.inr (Or.inl h)
        · exact Or.inl h
        · exact Or.inr (Or.inr h)
      · rintro (h | h | h)
        · exact Or.inr (Or.inl h)
        · exact Or.inl h
        · exact Or.inr (Or.inr h)

theorem nodup_insertByArrival {name : String} {value : α} {fields : List (String × α)}
    (h : (fieldNames fields).Nodup) : (fieldNames (insertByArrival name value fields)).Nodup := by
  induction fields with
  | nil => simp [insertByArrival, fieldNames]
  | cons f rest ih =>
    have hr : (fieldNames rest).Nodup := (List.nodup_cons.mp h).2
    have hf : f.1 ∉ fieldNames rest := (List.nodup_cons.mp h).1
    simp only [insertByArrival]
    split
    · exact List.nodup_cons.mpr ⟨hf, hr⟩
    · rename_i hne
      refine List.nodup_cons.mpr ⟨fun hm => ?_, ih hr⟩
      rcases mem_fieldNames_insertByArrival.mp hm with h1 | h1
      · exact hne h1
      · exact hf h1

/-- Fields in order of arrival. -/
structure Fields (α : Type) where
  /-- The fields. -/
  entries : List (String × α)
  nodup : (fieldNames entries).Nodup

namespace Fields

/-- No fields. -/
def empty : Fields α := ⟨[], List.nodup_nil⟩

/-- Set a field: a name that is present keeps its place. -/
def insert (fs : Fields α) (name : String) (value : α) : Fields α :=
  ⟨insertByArrival name value fs.entries, nodup_insertByArrival fs.nodup⟩

/-- Fields set one after the other. -/
def ofList (fields : List (String × α)) : Fields α :=
  fields.foldl (fun fs f => fs.insert f.1 f.2) empty

/-- The value of a field. -/
def get? (fs : Fields α) (name : String) : Option α :=
  (fs.entries.find? fun f => f.1 == name).map (·.2)

/-- The number of fields. -/
def size (fs : Fields α) : Nat := fs.entries.length

/-- The values in order. -/
def values (fs : Fields α) : List α := fs.entries.map (·.2)

/-- The fields with every value changed. -/
def map (f : α → β) (fs : Fields α) : Fields β :=
  ⟨fs.entries.map fun e => (e.1, f e.2), by
    have h := fs.nodup
    simpa [fieldNames, List.map_map, Function.comp_def] using h⟩

end Fields

end BulkValues
