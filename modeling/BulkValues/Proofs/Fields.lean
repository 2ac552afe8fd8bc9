/-
# Fields keep their order

Fields that arrive under different names are kept as they come, and what is found under a name does
not depend on their order.
-/
import BulkValues.Fields
import Mathlib.Data.List.Nodup
import Mathlib.Tactic.Lemma

namespace BulkValues

variable {α : Type} {name : String} {value : α} {fields kept : List (String × α)}

/-- A new name comes last. -/
lemma insertByArrival_of_notMem (h : name ∉ fieldNames fields) :
    insertByArrival name value fields = fields ++ [(name, value)] := by
  induction fields with
  | nil => rfl
  | cons f rest ih =>
    have hne : f.1 ≠ name := fun heq => h (heq ▸ List.mem_cons_self ..)
    rw [insertByArrival, if_neg hne, ih fun hm => h (List.mem_cons_of_mem _ hm)]
    rfl

/-- Fields under new names come after those that are kept. -/
lemma foldl_insertByArrival (h : (fieldNames (kept ++ fields)).Nodup) :
    fields.foldl (fun kept f => insertByArrival f.1 f.2 kept) kept = kept ++ fields := by
  induction fields generalizing kept with
  | nil => exact (List.append_nil _).symm
  | cons f rest ih =>
    have hnew : f.1 ∉ fieldNames kept := by
      intro hm
      rw [fieldNames, List.map_append, List.nodup_append] at h
      exact h.2.2 _ hm _ (List.mem_cons_self ..) rfl
    rw [List.append_cons] at h
    rw [List.foldl_cons, insertByArrival_of_notMem hnew, ih h]
    exact (List.append_cons ..).symm

lemma orderByArrival_of_nodup (h : (fieldNames fields).Nodup) : orderByArrival fields = fields :=
  foldl_insertByArrival h

lemma Fields.entries_foldl_insert (fields : List (String × α)) (fs : Fields α) :
    (fields.foldl (fun fs f => fs.insert f.1 f.2) fs).entries =
      fields.foldl (fun kept f => insertByArrival f.1 f.2 kept) fs.entries := by
  induction fields generalizing fs with
  | nil => rfl
  | cons f rest ih => exact ih (fs.insert f.1 f.2)

/-- Fields with different names are kept as they come. -/
lemma Fields.entries_ofList (h : (fieldNames fields).Nodup) : (ofList fields).entries = fields :=
  (entries_foldl_insert fields empty).trans (orderByArrival_of_nodup h)

/-! ## Looking up a field -/

/-- A field that is put among fields is found under its name. -/
lemma find?_insertByArrival (key : String) (value : α) (fields : List (String × α))
    (name : String) :
    ((insertByArrival key value fields).find? fun f => f.1 == name).map (·.2) =
      if key = name then some value else (fields.find? fun f => f.1 == name).map (·.2) := by
  induction fields with
  | nil =>
    rw [insertByArrival, List.find?_singleton]
    by_cases h : key = name <;> simp [h]
  | cons f rest ih =>
    obtain ⟨n, v⟩ := f
    rw [insertByArrival]
    split
    · rename_i hkey
      subst hkey
      by_cases h : n = name <;> simp [h]
    · rename_i hne
      by_cases h : n = name
      · have hkey : key ≠ name := fun heq => hne (h.trans heq.symm)
        simp [h, hkey]
      · simpa [h] using ih

/-- Of the fields that arrive under a name the last is found. -/
lemma find?_foldl_insertByArrival (fields kept : List (String × α)) (name : String) :
    ((fields.foldl (fun kept f => insertByArrival f.1 f.2 kept) kept).find?
        fun f => f.1 == name).map (·.2) =
      ((fields.filter fun f => f.1 == name).getLast?.map (·.2)).or
        ((kept.find? fun f => f.1 == name).map (·.2)) := by
  induction fields generalizing kept with
  | nil => simp
  | cons f rest ih =>
    rw [List.foldl_cons, ih, find?_insertByArrival, List.filter_cons]
    by_cases h : f.1 = name
    · simp only [h, if_true, beq_self_eq_true]
      rw [List.getLast?_cons]
      cases (rest.filter fun f => f.1 == name).getLast? <;> simp
    · simp [h]

namespace Fields

variable {fs gs : Fields α} {v : α}

/-- A name has at most one value. -/
lemma get?_eq_some_iff : fs.get? name = some v ↔ (name, v) ∈ fs.entries := by
  rw [get?, Option.map_eq_some_iff]
  constructor
  · rintro ⟨⟨n, w⟩, hfound, rfl⟩
    have hname : n = name := by simpa using List.find?_some hfound
    rw [← hname]
    exact List.mem_of_find?_eq_some hfound
  · intro hmem
    have hsome : (fs.entries.find? fun f => f.1 == name).isSome = true :=
      List.find?_isSome.mpr ⟨_, hmem, beq_self_eq_true name⟩
    obtain ⟨f, hfound⟩ := Option.isSome_iff_exists.mp hsome
    have hname : f.1 = name := by simpa using List.find?_some hfound
    have hunique := List.inj_on_of_nodup_map fs.nodup (List.mem_of_find?_eq_some hfound) hmem hname
    exact ⟨f, hfound, by rw [hunique]⟩

lemma exists_get?_iff : (∃ v, fs.get? name = some v) ↔ name ∈ fieldNames fs.entries := by
  simp only [get?_eq_some_iff, fieldNames, List.mem_map]
  constructor
  · rintro ⟨v, hmem⟩
    exact ⟨(name, v), hmem, rfl⟩
  · rintro ⟨⟨_, v⟩, hmem, rfl⟩
    exact ⟨v, hmem⟩

/-- Neither the order of fields nor fields of other names matter. -/
lemma get?_of_perm {unused : List (String × α)} (h : gs.entries.Perm (fs.entries ++ unused))
    (hname : name ∉ fieldNames unused) : gs.get? name = fs.get? name := by
  ext v
  rw [get?_eq_some_iff, get?_eq_some_iff, h.mem_iff, List.mem_append, or_iff_left]
  exact fun hmem => hname (List.mem_map_of_mem (f := Prod.fst) hmem)

end Fields

end BulkValues
