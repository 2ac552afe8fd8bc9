/-
# Parameters

Named texts, sorted by name, each name once.  Settings of a section, overrides of a caller and
the extra parameters of a connection are all of this form.
-/

namespace BulkValues

/-- Put a parameter among sorted parameters; one of that name is replaced. -/
def insertParam (key value : String) : List (String × String) → List (String × String)
  | [] => [(key, value)]
  | (k, v) :: rest =>
    if key = k then (key, value) :: rest
    else if key < k then (key, value) :: (k, v) :: rest
    else (k, v) :: insertParam key value rest

/-- Parameters are sorted when every name is below all later ones. -/
def SortedParams (entries : List (String × String)) : Prop :=
  entries.Pairwise fun a b => a.1 < b.1

theorem mem_insertParam {key value : String} {entries : List (String × String)}
    {e : String × String} (h : e ∈ insertParam key value entries) :
    e = (key, value) ∨ e ∈ entries := by
  induction entries with
  | nil => simpa [insertParam] using h
  | cons f rest ih =>
    simp only [insertParam] at h
    split at h
    · rcases List.mem_cons.mp h with h | h
      · exact Or.inl h
      · exact Or.inr (List.mem_cons_of_mem _ h)
    · split at h
      · rcases List.mem_cons.mp h with h | h
        · exact Or.inl h
        · exact Or.inr h
      · rcases List.mem_cons.mp h with h | h
        · exact Or.inr (h ▸ List.mem_cons_self)
        · rcases ih h with h | h
          · exact Or.inl h
          · exact Or.inr (List.mem_cons_of_mem _ h)

theorem sorted_insertParam {key value : String} {entries : List (String × String)}
    (h : SortedParams entries) : SortedParams (insertParam key value entries) := by
  induction entries with
  | nil => simp [insertParam, SortedParams]
  | cons f rest ih =>
    obtain ⟨hf, hr⟩ := List.pairwise_cons.mp h
    simp only [insertParam]
    split
    · rename_i he
      exact List.pairwise_cons.mpr ⟨fun e hm => he ▸ hf e hm, hr⟩
    · rename_i hne
      split
      · rename_i hlt
        refine List.pairwise_cons.mpr ⟨fun e hm => ?_, h⟩
        rcases List.mem_cons.mp hm with rfl | hm
        · exact hlt
        · exact String.lt_trans hlt (hf e hm)
      · rename_i hnlt
        refine List.pairwise_cons.mpr ⟨fun e hm => ?_, ih hr⟩
        rcases mem_insertParam hm with rfl | hm
        · exact Std.lt_of_le_of_ne (String.not_lt.mp hnlt) (Ne.symm hne)
        · exact hf e hm

/-- Parameters, sorted by name. -/
structure Params where
  /-- The names and their texts. -/
  entries : List (String × String)
  sorted : SortedParams entries

namespace Params

/-- No parameters. -/
def empty : Params := ⟨[], List.Pairwise.nil⟩

/-- Set a parameter. -/
def insert (p : Params) (key value : String) : Params :=
  ⟨insertParam key value p.entries, sorted_insertParam p.sorted⟩

/-- Set parameters one after the other. -/
def insertAll (p : Params) (pairs : List (String × String)) : Params :=
  pairs.foldl (fun p e => p.insert e.1 e.2) p

/-- Parameters set one after the other; a repeated name keeps its last text. -/
def ofList (pairs : List (String × String)) : Params := empty.insertAll pairs

/-- The text of a parameter. -/
def get? (p : Params) (key : String) : Option String :=
  (p.entries.find? fun e => e.1 == key).map (·.2)

/-- Whether there is no parameter. -/
def isEmpty (p : Params) : Bool := p.entries.isEmpty

/-- The parameters whose name is in a class. -/
def filter (p : Params) (keep : String → Bool) : Params :=
  ⟨p.entries.filter fun e => keep e.1, List.Pairwise.filter _ p.sorted⟩

instance : BEq Params := ⟨fun p q => p.entries == q.entries⟩

end Params

end BulkValues
