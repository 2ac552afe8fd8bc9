/-
# Looking up parameters

Parameters are what their names say: two lists of them with the same text under every name are the
same.  So putting parameters in, one after the other or all at once, is described by what is found
under each name afterwards.
-/
import BulkValues.Params
import BulkValues.Proofs.Fields
import Mathlib.Data.List.Sort
import Mathlib.Data.Nat.Notation
import Mathlib.Data.String.Basic
import Mathlib.Tactic.Lemma

namespace BulkValues

/-- The last text that a name has in a list of named texts. -/
def lastText? (pairs : List (String × String)) (name : String) : Option String :=
  pairs.reverse.lookup name

variable {p q : Params} {key value name text : String} {e : String × String}
  {entries pairs : List (String × String)}

lemma lastText?_cons (e : String × String) (pairs : List (String × String)) (name : String) :
    lastText? (e :: pairs) name =
      (lastText? pairs name).or (if name = e.1 then some e.2 else none) := by
  obtain ⟨key, value⟩ := e
  rw [lastText?, lastText?, List.reverse_cons, List.lookup_append, List.lookup_cons,
    List.lookup_nil]
  by_cases h : name = key
  · rw [if_pos h, beq_iff_eq.mpr h]
  · rw [if_neg h, beq_false_of_ne h]

lemma mem_of_lastText? (h : lastText? pairs name = some text) : (name, text) ∈ pairs := by
  obtain ⟨before, after, hpairs, -⟩ := List.lookup_eq_some_iff.mp h
  rw [← List.mem_reverse, hpairs]
  simp

lemma lastText?_ne_none (h : (name, text) ∈ pairs) : lastText? pairs name ≠ none := by
  intro hnone
  have hne := List.lookup_eq_none_iff.mp hnone (name, text) (List.mem_reverse.mpr h)
  simp at hne

/-- What is put among sorted parameters is there, and so is what has another name. -/
lemma mem_insertParam_iff (h : SortedParams entries) :
    e ∈ insertParam key value entries ↔ e = (key, value) ∨ e ∈ entries ∧ e.1 ≠ key := by
  induction entries with
  | nil => simp [insertParam]
  | cons f rest ih =>
    obtain ⟨hf, hrest⟩ := List.pairwise_cons.mp h
    -- The parameters behind one that is not below the key have other names.
    have hbehind : key ≤ f.1 → ∀ e ∈ rest, e.1 ≠ key :=
      fun hle e he => (hle.trans_lt (hf e he)).ne'
    rw [insertParam]
    split
    · rename_i hkey
      have := hbehind hkey.le
      grind
    · rename_i hne
      split
      · rename_i hlt
        have := hbehind hlt.le
        grind
      · rw [List.mem_cons, List.mem_cons, ih hrest]
        grind

namespace Params

lemma nodup_names (p : Params) : (fieldNames p.entries).Nodup :=
  List.pairwise_map.mpr (p.sorted.imp ne_of_lt)

/-- A name has at most one text. -/
lemma get?_eq_some_iff : p.get? name = some text ↔ (name, text) ∈ p.entries := by
  let fields : Fields String := ⟨p.entries, p.nodup_names⟩
  exact fields.get?_eq_some_iff

lemma ext_entries (h : p.entries = q.entries) : p = q := by
  obtain ⟨entries, sorted⟩ := p
  cases h
  rfl

/-- Parameters with the same text under every name are the same. -/
lemma ext_get? (h : ∀ name, p.get? name = q.get? name) : p = q := by
  have : Std.Irrefl fun a b : String × String => a.1 < b.1 := ⟨fun a => lt_irrefl a.1⟩
  have : Std.Antisymm fun a b : String × String => a.1 < b.1 :=
    ⟨fun a b hab hba => absurd hba (lt_asymm hab)⟩
  refine ext_entries (List.Pairwise.eq_of_mem_iff p.sorted q.sorted fun ⟨name, text⟩ => ?_)
  rw [← get?_eq_some_iff, ← get?_eq_some_iff, h]

lemma get?_insert (p : Params) (key value name : String) :
    (p.insert key value).get? name = if name = key then some value else p.get? name := by
  ext text
  rw [get?_eq_some_iff, insert, mem_insertParam_iff p.sorted, ← get?_eq_some_iff]
  by_cases hname : name = key
  · simp [hname, eq_comm]
  · simp [hname]

@[simp] lemma get?_empty (name : String) : empty.get? name = none := rfl

/-- After parameters are set one after the other, the last text that a name was given counts. -/
lemma get?_insertAll (p : Params) (pairs : List (String × String)) (name : String) :
    (p.insertAll pairs).get? name = (lastText? pairs name).or (p.get? name) := by
  induction pairs generalizing p with
  | nil => rfl
  | cons e pairs ih =>
    have hcons : p.insertAll (e :: pairs) = (p.insert e.1 e.2).insertAll pairs := rfl
    rw [hcons, ih, get?_insert, lastText?_cons, Option.or_assoc]
    split <;> rfl

lemma get?_ofList (pairs : List (String × String)) (name : String) :
    (ofList pairs).get? name = lastText? pairs name := by
  rw [ofList, get?_insertAll, get?_empty, Option.or_none]

/-- The last text of a name among parameters is its only one. -/
lemma lastText?_entries (p : Params) (name : String) : lastText? p.entries name = p.get? name := by
  cases htext : lastText? p.entries name with
  | some text => exact (get?_eq_some_iff.mpr (mem_of_lastText? htext)).symm
  | none =>
    refine (Option.eq_none_iff_forall_ne_some.mpr fun text hget => ?_).symm
    exact lastText?_ne_none (get?_eq_some_iff.mp hget) htext

/-- Setting parameters that were put together first is setting them one after the other. -/
lemma insertAll_entries_ofList (p : Params) (pairs : List (String × String)) :
    p.insertAll (ofList pairs).entries = p.insertAll pairs := by
  refine ext_get? fun name => ?_
  rw [get?_insertAll, get?_insertAll, lastText?_entries, get?_ofList]

lemma get?_filter (p : Params) (keep : String → Bool) (name : String) :
    (p.filter keep).get? name = if keep name then p.get? name else none := by
  ext text
  rw [get?_eq_some_iff, filter, List.mem_filter, ← get?_eq_some_iff]
  by_cases hkeep : keep name = true
  · simp [hkeep]
  · simp [hkeep]

end Params

end BulkValues
