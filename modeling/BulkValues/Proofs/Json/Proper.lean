/-
# Proper documents

A document is proper when it could have been read: its whole numbers are in the ranges that are
kept exactly, its floats are finite, and the fields of every object are in ascending order of their
names, so that no name stands twice.  Sorting puts the fields of any document in that order and
leaves the fields of a proper one alone.
-/
import BulkValues.Fields
import Mathlib.Algebra.Group.Int.Defs
import Mathlib.Data.String.Basic
import Mathlib.Tactic.Lemma

namespace BulkValues

/-- Whether a number is one that documents can hold. -/
def JsonNumber.isProper : JsonNumber → Bool
  | natural n => n < 2 ^ 64
  | negative n => -2 ^ 63 ≤ n && n < 0
  | float x => x.isFinite

namespace Json

mutual

/-- Whether the numbers of a document are all as `p` says, and the names of every object as `q`
says. -/
def all (p : JsonNumber → Bool) (q : List String → Bool) : Json → Bool
  | number n => p n
  | array items => allItems p q items
  | object fields => q (fieldNames fields) && allFields p q fields
  | _ => true

/-- `all` for every item. -/
def allItems (p : JsonNumber → Bool) (q : List String → Bool) : List Json → Bool
  | [] => true
  | item :: rest => all p q item && allItems p q rest

/-- `all` for the value of every field. -/
def allFields (p : JsonNumber → Bool) (q : List String → Bool) : List (String × Json) → Bool
  | [] => true
  | (_, value) :: rest => all p q value && allFields p q rest

end

/-- Whether names ascend. -/
def isAscending (names : List String) : Bool := names.Pairwise (· < ·)

/-- Whether the document could have been read. -/
def isProper (doc : Json) : Bool := doc.all JsonNumber.isProper isAscending

variable {p : JsonNumber → Bool} {q : List String → Bool} {name : String} {value : Json}
  {sorted fields : List (String × Json)} {items : List Json}

lemma isAscending_iff {names : List String} :
    isAscending names = true ↔ names.Pairwise (· < ·) := decide_eq_true_iff

lemma allItems_iff : allItems p q items = true ↔ ∀ item ∈ items, item.all p q = true := by
  induction items with
  | nil => simp [allItems]
  | cons item rest ih => simp [allItems, ih]

lemma allFields_iff : allFields p q fields = true ↔ ∀ f ∈ fields, f.2.all p q = true := by
  induction fields with
  | nil => simp [allFields]
  | cons f rest ih => simp [allFields, ih]

/-! ## Sorting -/

lemma mem_insertField {f : String × Json} (h : f ∈ insertField name value sorted) :
    f = (name, value) ∨ f ∈ sorted := by
  fun_induction insertField name value sorted with
  | case1 => exact .inl (List.mem_singleton.mp h)
  | case2 n v rest hlt => exact List.mem_cons.mp h
  | case3 v rest hlt =>
    obtain rfl | hf := List.mem_cons.mp h
    · exact .inl rfl
    · exact .inr (List.mem_cons_of_mem _ hf)
  | case4 n v rest hlt hne ih =>
    obtain rfl | hf := List.mem_cons.mp h
    · exact .inr (List.mem_cons_self ..)
    · exact (ih hf).imp_right (List.mem_cons_of_mem _)

/-- A field is put where its name belongs. -/
lemma pairwise_insertField (h : (fieldNames sorted).Pairwise (· < ·)) :
    (fieldNames (insertField name value sorted)).Pairwise (· < ·) := by
  fun_induction insertField name value sorted with
  | case1 => exact List.pairwise_singleton _ _
  | case2 n v rest hlt =>
    refine List.pairwise_cons.mpr ⟨fun m hm => ?_, h⟩
    obtain rfl | hm := List.mem_cons.mp hm
    · exact hlt
    · exact hlt.trans (List.rel_of_pairwise_cons h hm)
  | case3 v rest hlt => exact h
  | case4 n v rest hlt hne ih =>
    obtain ⟨hfirst, hrest⟩ := List.pairwise_cons.mp h
    refine List.pairwise_cons.mpr ⟨fun m hm => ?_, ih hrest⟩
    obtain ⟨f, hf, rfl⟩ := List.mem_map.mp hm
    obtain rfl | hf := mem_insertField hf
    · exact lt_of_le_of_ne (not_lt.mp hlt) (Ne.symm hne)
    · exact hfirst _ (List.mem_map_of_mem hf)

/-- A name after all others comes last. -/
lemma insertField_of_lt (h : ∀ n ∈ fieldNames sorted, n < name) :
    insertField name value sorted = sorted ++ [(name, value)] := by
  induction sorted with
  | nil => rfl
  | cons f rest ih =>
    have hf : f.1 < name := h f.1 (List.mem_cons_self ..)
    rw [insertField, if_neg hf.asymm, if_neg hf.ne', ih fun n hn => h n (List.mem_cons_of_mem _ hn)]
    rfl

lemma pairwise_sortFields (fields : List (String × Json)) :
    (fieldNames (sortFields fields)).Pairwise (· < ·) := by
  refine List.foldlRecOn (motive := fun sorted => (fieldNames sorted).Pairwise (· < ·)) fields _
    List.Pairwise.nil fun sorted hsorted f _ => ?_
  exact pairwise_insertField hsorted

lemma mem_sortFields {f : String × Json} (h : f ∈ sortFields fields) : f ∈ fields := by
  refine List.foldlRecOn (motive := fun sorted => ∀ f ∈ sorted, f ∈ fields) fields _
    (fun f hf => absurd hf List.not_mem_nil) (fun sorted hsorted g hg f hf => ?_) f h
  obtain rfl | hf := mem_insertField hf
  · exact hg
  · exact hsorted f hf

/-- Fields that are sorted follow what is sorted before them. -/
lemma foldl_insertField (h : (fieldNames (sorted ++ fields)).Pairwise (· < ·)) :
    fields.foldl (fun sorted f => insertField f.1 f.2 sorted) sorted = sorted ++ fields := by
  induction fields generalizing sorted with
  | nil => exact (List.append_nil sorted).symm
  | cons f rest ih =>
    have hlast : ∀ n ∈ fieldNames sorted, n < f.1 := by
      intro n hn
      rw [fieldNames, List.map_append, List.pairwise_append] at h
      exact h.2.2 n hn f.1 (List.mem_cons_self ..)
    rw [List.append_cons] at h ⊢
    rw [List.foldl_cons, insertField_of_lt hlast]
    exact ih h

/-- Fields that are sorted stay as they are. -/
lemma sortFields_of_pairwise (h : (fieldNames fields).Pairwise (· < ·)) :
    sortFields fields = fields :=
  @foldl_insertField [] fields h

/-! ## Normal documents -/

mutual

/-- Sorting makes the names of every object ascend and keeps the numbers. -/
lemma all_normalize : ∀ doc : Json, doc.all p (fun _ => true) = true →
    doc.normalize.all p isAscending = true
  | .null, _ => rfl
  | .bool _, _ => rfl
  | .number _, h => h
  | .string _, _ => rfl
  | .array items, h => by
    rw [all] at h
    rw [normalize, all]
    exact allItems_normalizeItems items h
  | .object fields, h => by
    rw [all, Bool.true_and] at h
    have hfields := allFields_iff.mp (allFields_normalizeFields fields h)
    rw [normalize, all, isAscending_iff.mpr (pairwise_sortFields _), Bool.true_and]
    exact allFields_iff.mpr fun f hf => hfields f (mem_sortFields hf)

lemma allItems_normalizeItems : ∀ items : List Json, allItems p (fun _ => true) items = true →
    allItems p isAscending (normalizeItems items) = true
  | [], _ => rfl
  | item :: rest, h => by
    rw [allItems, Bool.and_eq_true] at h
    rw [normalizeItems, allItems, Bool.and_eq_true]
    exact ⟨all_normalize item h.1, allItems_normalizeItems rest h.2⟩

lemma allFields_normalizeFields : ∀ fields : List (String × Json),
    allFields p (fun _ => true) fields = true →
      allFields p isAscending (normalizeFields fields) = true
  | [], _ => rfl
  | (name, value) :: rest, h => by
    rw [allFields, Bool.and_eq_true] at h
    rw [normalizeFields, allFields, Bool.and_eq_true]
    exact ⟨all_normalize value h.1, allFields_normalizeFields rest h.2⟩

end

end Json

end BulkValues
